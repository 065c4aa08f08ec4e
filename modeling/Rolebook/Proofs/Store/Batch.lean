import Rolebook.Proofs.Membership.Report
import Rolebook.Proofs.Store.Run

/-!
# Batches on a store

A batch of membership changes is carried out call by call. Since a change looks only at what no
change touches (`answer_applyChange`), every call of a batch is answered as if it were the first
one:

* `run_changeAll`: the outcomes are the answers that the store gives at the start, and the store is
  left with the changes that were not refused;
* `holders_applyChanges`: who holds the role then is what those changes make of the holders before;
* `applyChanges_perm`: on distinct users, in whatever order they are made.
-/

namespace Rolebook.Store

/-! ## Who holds a role -/

/-- The ids of the users who hold a role. -/
def holders (s : Store) (id : RoleId) : SortedSet UserId :=
  .ofList ((s.assignments.filter fun a => decide (a.role = id)).toList.map (·.user))

/-- Who holds a role is who has an assignment to it. -/
theorem mem_holders {s : Store} {id : RoleId} {u : UserId} :
    u ∈ s.holders id ↔ (⟨u, id⟩ : Assignment) ∈ s.assignments := by
  rw [holders, SortedSet.mem_ofList, List.mem_map]
  constructor
  · rintro ⟨⟨v, k⟩, ha, rfl⟩
    obtain ⟨hm, hk⟩ := SortedSet.mem_filter.mp ha
    have hk : k = id := of_decide_eq_true hk
    subst hk
    exact hm
  · exact fun ha => ⟨_, SortedSet.mem_filter.mpr ⟨ha, decide_eq_true rfl⟩, rfl⟩

/-- Where the assignments of a role are the same, so are its holders. -/
theorem SameRole.holders_eq {id : RoleId} {s s' : Store} (h : SameRole id s s') :
    s'.holders id = s.holders id :=
  SortedSet.ext_mem fun u => by rw [mem_holders, mem_holders, h.holders]

/-- The members that a reading finds are the holders: none of them is dropped as unknown. -/
theorem ofList_members {s : Store} (hs : s.Sound) (id : RoleId) :
    SortedSet.ofList ((s.members id).map (·.id)) = s.holders id := by
  refine SortedSet.ext_mem fun u => ?_
  rw [SortedSet.mem_ofList, mem_holders, List.mem_map]
  constructor
  · rintro ⟨v, hv, rfl⟩
    obtain ⟨a, ha, hf⟩ := List.mem_filterMap.mp hv
    obtain ⟨ha, hid⟩ := SortedSet.mem_filter.mp ha
    rw [hs.userKeyed hf, ← of_decide_eq_true hid]
    exact ha
  · intro ha
    obtain ⟨v, hv⟩ := Option.isSome_iff_exists.mp (hs.holderKnown ha)
    refine ⟨v, List.mem_filterMap.mpr ⟨⟨u, id⟩, ?_, hv⟩, hs.userKeyed hv⟩
    exact SortedSet.mem_filter.mpr ⟨ha, decide_eq_true rfl⟩

/-! ## One change -/

section Change

variable (s : Store) (id : RoleId) (o : Operation)

@[simp] theorem roles_applyChange : (s.applyChange id o).roles = s.roles := by cases o <;> rfl

@[simp] theorem permissions_applyChange : (s.applyChange id o).permissions = s.permissions := by
  cases o <;> rfl

@[simp] theorem users_applyChange : (s.applyChange id o).users = s.users := by cases o <;> rfl

@[simp] theorem failing_applyChange : (s.applyChange id o).failing = s.failing := by
  cases o <;> rfl

/-- A change makes of the holders what its operation makes of a set of members. -/
theorem holders_applyChange : (s.applyChange id o).holders id = o.applyTo (s.holders id) := by
  refine SortedSet.ext_mem fun u => ?_
  rw [mem_holders]
  cases o with
  | assign v =>
    refine SortedSet.mem_insert.trans (Iff.trans ?_ SortedSet.mem_insert.symm)
    rw [mem_holders, Assignment.mk.injEq]
    exact or_congr_left (and_iff_left rfl)
  | unassign v =>
    refine SortedSet.mem_erase.trans (Iff.trans ?_ SortedSet.mem_erase.symm)
    rw [mem_holders, ne_eq, Assignment.mk.injEq]
    exact and_congr_right fun _ => not_congr (and_iff_left rfl)

/-- What the store answers to a change. -/
def answer : Except Fault Unit :=
  match s.refusal? id o with
  | some fault => .error fault
  | none => .ok ()

/-- If the role is stored, what a call answers depends on its user alone. -/
theorem answer_of_stored (h : s.roles.contains id = true) :
    (⟨o, s.answer id o⟩ : Outcome) = Report.outcomeOf s.fails s.faultOf o := by
  cases hf : s.fails o <;> simp [answer, refusal?, Report.outcomeOf, h, hf]

/-- A change makes no difference to whether another one is refused. -/
theorem refusal?_applyChange (o' : Operation) :
    (s.applyChange id o).refusal? id o' = s.refusal? id o' := by
  simp [refusal?, fails, faultOf]

end Change

/-! ## Many changes -/

/-- The store after many changes to the members of a role. -/
def applyChanges (s : Store) (id : RoleId) (os : List Operation) : Store :=
  os.foldl (fun s o => s.applyChange id o) s

section Changes

variable (id : RoleId) (os : List Operation)

theorem applyChanges_cons (s : Store) (o : Operation) :
    s.applyChanges id (o :: os) = (s.applyChange id o).applyChanges id os := rfl

theorem roles_applyChanges (s : Store) : (s.applyChanges id os).roles = s.roles := by
  induction os generalizing s with
  | nil => rfl
  | cons o os ih => rw [applyChanges_cons, ih, roles_applyChange]

theorem permissions_applyChanges (s : Store) :
    (s.applyChanges id os).permissions = s.permissions := by
  induction os generalizing s with
  | nil => rfl
  | cons o os ih => rw [applyChanges_cons, ih, permissions_applyChange]

theorem users_applyChanges (s : Store) : (s.applyChanges id os).users = s.users := by
  induction os generalizing s with
  | nil => rfl
  | cons o os ih => rw [applyChanges_cons, ih, users_applyChange]

theorem failing_applyChanges (s : Store) : (s.applyChanges id os).failing = s.failing := by
  induction os generalizing s with
  | nil => rfl
  | cons o os ih => rw [applyChanges_cons, ih, failing_applyChange]

/-- A batch does not touch the assignments of other roles. -/
theorem mem_applyChanges_of_ne (s : Store) {a : Assignment} (h : a.role ≠ id) :
    a ∈ (s.applyChanges id os).assignments ↔ a ∈ s.assignments := by
  induction os generalizing s with
  | nil => rfl
  | cons o os ih => rw [applyChanges_cons, ih, mem_applyChange_of_ne s o h]

/-- Who holds the role after many changes is what these make of who held it before. -/
theorem holders_applyChanges (s : Store) :
    (s.applyChanges id os).holders id = applyAll os (s.holders id) := by
  induction os generalizing s with
  | nil => rfl
  | cons o os ih => rw [applyChanges_cons, ih, holders_applyChange, applyAll_cons]

end Changes

/-- A store is its roles, permissions, users and assignments, and the users whose calls fail. -/
theorem ext {s t : Store} (hr : s.roles = t.roles) (hp : s.permissions = t.permissions)
    (hu : s.users = t.users) (ha : ∀ a, a ∈ s.assignments ↔ a ∈ t.assignments)
    (hf : s.failing = t.failing) : s = t := by
  cases s
  cases t
  cases hr
  cases hp
  cases hu
  cases hf
  cases SortedSet.ext_mem ha
  rfl

/-- Changes for distinct users can be made in any order. -/
theorem applyChanges_perm (s : Store) (id : RoleId) {os os' : List Operation}
    (h : (os.map Operation.user).Nodup) (hp : os'.Perm os) :
    s.applyChanges id os' = s.applyChanges id os := by
  refine ext ?_ ?_ ?_ (fun a => ?_) ?_
  · rw [roles_applyChanges, roles_applyChanges]
  · rw [permissions_applyChanges, permissions_applyChanges]
  · rw [users_applyChanges, users_applyChanges]
  · by_cases ha : a.role = id
    · subst ha
      rw [show a = ⟨a.user, a.role⟩ from rfl, ← mem_holders, ← mem_holders, holders_applyChanges,
        holders_applyChanges, applyAll_perm h hp]
    · rw [mem_applyChanges_of_ne id os' s ha, mem_applyChanges_of_ne id os s ha]
  · rw [failing_applyChanges, failing_applyChanges]

/-! ## A batch of calls -/

/-- The changes of a batch that are not refused. -/
def accepted (s : Store) (id : RoleId) (os : List Operation) : List Operation :=
  os.filter fun o => (s.refusal? id o).isNone

/-- If the role is stored, the store takes the operations that do not fail for their user, each
without regard to the others. -/
theorem accepted_of_stored {s : Store} {id : RoleId} (h : s.roles.contains id = true)
    (os : List Operation) : s.accepted id os = os.filter fun o => !s.fails o := by
  refine List.filter_congr fun o _ => ?_
  cases hf : s.fails o <;> simp [refusal?, h, hf]

/-- Every call of a batch is answered as if it were the first, and the changes that are not refused
are made. -/
theorem run_changeAll (id : RoleId) (os : List Operation) (s : Store) :
    (changeAll id os).run s
      = (os.map fun o => ⟨o, s.answer id o⟩, s.applyChanges id (s.accepted id os)) := by
  induction os generalizing s with
  | nil => rfl
  | cons o os ih =>
    have hcons : (changeAll id (o :: os)).run s =
        let (result, s₁) := exec (change id o) s
        let (outcomes, s₂) := (changeAll id os).run s₁
        (⟨o, result⟩ :: outcomes, s₂) := by
      rw [changeAll, List.mapM_cons, Routine.run_bind, Routine.run_bind, Routine.run_bind]
      rfl
    rw [hcons, exec_change]
    cases h : s.refusal? id o with
    | some fault =>
      show (_ :: ((changeAll id os).run s).1, ((changeAll id os).run s).2) = _
      rw [ih]
      simp [answer, accepted, h]
    | none =>
      show (_ :: ((changeAll id os).run (s.applyChange id o)).1,
        ((changeAll id os).run (s.applyChange id o)).2) = _
      rw [ih]
      simp [answer, accepted, h, refusal?_applyChange, applyChanges_cons]

end Rolebook.Store
