import Rolebook.Proofs.Membership.Roster
import Rolebook.Proofs.Store.Integrity

/-!
# The roster of a store

A store of one piece, in which no calls are made to fail, goes by rosters (`goesBy_gateway`): its
roster is read off its parts.
-/

namespace Rolebook.Store

/-- The roster that a store keeps. -/
def roster (s : Store) : Roster where
  roles id := s.roles.contains id = true
  users u := s.users.contains u = true
  held a := a ∈ s.assignments

variable {s : Store}

/-- A store of one piece in which no calls are made to fail. -/
structure Willing (s : Store) : Prop extends Intact s where
  willing : ∀ u, u ∉ s.failing

/-- On the roster of an intact store, who holds a role is there, and so is the role. -/
theorem Intact.coherent (h : s.Intact) : s.roster.Coherent :=
  fun _ ha => ⟨h.roleStored ha, h.holderKnown ha⟩

/-- To give a role in the store is to give it on the roster. -/
theorem roster_assign (id : RoleId) (u : UserId) :
    (s.applyChange id (.assign u)).roster = s.roster.add ⟨u, id⟩ :=
  Roster.ext rfl rfl (funext fun _ => propext SortedSet.mem_insert)

/-- To take a role away in the store is to take it away on the roster. -/
theorem roster_unassign (id : RoleId) (u : UserId) :
    (s.applyChange id (.unassign u)).roster = s.roster.remove ⟨u, id⟩ :=
  Roster.ext rfl rfl (funext fun _ => propext SortedSet.mem_erase)

theorem refusal?_of_unknown {id : RoleId} (hrole : s.roles.contains id = false) (o : Operation) :
    s.refusal? id o = some (.noRole id) := by
  rw [refusal?, hrole]
  rfl

/-- A willing store refuses a change to a stored role only if an unknown user is to get it. -/
theorem refusal?_of_willing (h : s.Willing) {id : RoleId} (hrole : s.roles.contains id = true) :
    (∀ u, s.refusal? id (.assign u) = if s.users.contains u then none else some (.noUser u)) ∧
      ∀ u, s.refusal? id (.unassign u) = none := by
  refine ⟨fun u => ?_, fun u => ?_⟩
  · have hno : (Operation.assign u).user ∉ s.failing := h.willing u
    rw [refusal?, if_pos hrole, fails.eq_def, faultOf, decide_eq_false hno, if_neg hno,
      Bool.false_or]
    cases hu : s.users.contains u <;> simp [hu, Operation.user]
  · have hno : (Operation.unassign u).user ∉ s.failing := h.willing u
    rw [refusal?, if_pos hrole, fails.eq_def, decide_eq_false hno]
    rfl

/-- A change that is not refused leaves a willing store. -/
theorem Willing.applyChange {id : RoleId} {o : Operation} (h : s.Willing)
    (ho : s.refusal? id o = none) : (s.applyChange id o).Willing where
  toIntact := h.toIntact.applyChange ho
  willing := by
    rw [failing_applyChange]
    exact h.willing

/-- A membership call to the store is a step of its roster. -/
theorem step_change (h : s.Willing) (id : RoleId) (o : Operation) :
    s.roster.Step (.change id o) ((exec (change id o) s).1.map fun _ => .done)
        (exec (change id o) s).2.roster ∧ (exec (change id o) s).2.Willing := by
  rw [exec_change]
  cases hrole : s.roles.contains id with
  | false =>
    rw [refusal?_of_unknown hrole]
    exact ⟨.unknownRole (by simp [roster, hrole, MemberCall.role]) rfl, h⟩
  | true =>
    obtain ⟨hassign, hunassign⟩ := refusal?_of_willing h hrole
    cases o with
    | assign u =>
      cases huser : s.users.contains u with
      | false =>
        have hrefused : s.refusal? id (.assign u) = some (.noUser u) := by rw [hassign, huser]; rfl
        rw [hrefused]
        exact ⟨.unknownUser (by simp [roster, huser]) rfl, h⟩
      | true =>
        have hmade : s.refusal? id (.assign u) = none := by rw [hassign, huser]; rfl
        rw [hmade]
        refine ⟨?_, h.applyChange hmade⟩
        show s.roster.Step _ _ (s.applyChange id (.assign u)).roster
        rw [roster_assign]
        exact .assign ⟨hrole, huser⟩
    | unassign u =>
      rw [hunassign]
      refine ⟨?_, h.applyChange (hunassign u)⟩
      show s.roster.Step _ _ (s.applyChange id (.unassign u)).roster
      rw [roster_unassign]
      exact .unassign u hrole

/-- The store shows a role just if it is on its roster. -/
theorem step_getRole (h : s.Willing) (m : Moment) (id : RoleId) :
    let read := ((gateway m.fresh m.now).getRole id).run.run s
    s.roster.Step (.getRole id) (read.1.map .role) read.2.roster ∧ read.2 = s := by
  cases hr : s.roles.find? id with
  | some r =>
    have hasked : r.id = id := h.roleKeyed hr
    rw [run_getRole_stored h.toSound hr m]
    exact ⟨.getRole (Option.isSome_of_eq_some hr) hasked, rfl⟩
  | none =>
    have hread : ((gateway m.fresh m.now).getRole id).run.run s = _ := exec_getRole id s
    have hrole : s.role id = .error (.noRole id) := by rw [role, hr]
    rw [hread, hrole]
    exact ⟨.unknownRole (by simp [roster, SortedMap.contains, hr, MemberCall.role]) rfl, rfl⟩

theorem mem_ids_members (h : s.Sound) (id : RoleId) (u : UserId) :
    u ∈ (s.members id).map (·.id) ↔ (⟨u, id⟩ : Assignment) ∈ s.assignments := by
  rw [ids_members h, List.mem_map]
  constructor
  · rintro ⟨a, ha, rfl⟩
    obtain ⟨hmem, rfl⟩ := mem_held.mp ha
    exact hmem
  · exact fun hmem => ⟨_, mem_held.mpr ⟨hmem, rfl⟩, rfl⟩

/-- The store lists as members who is on its roster. -/
theorem step_members (h : s.Willing) (m : Moment) (id : RoleId) :
    let read := ((gateway m.fresh m.now).listMembers id).run.run s
    s.roster.Step (.members id) (read.1.map .users) read.2.roster ∧ read.2 = s := by
  intro read
  have hread : read = _ := exec_listMembers id s
  cases hrole : s.roles.contains id with
  | true =>
    rw [hread, if_pos hrole]
    exact ⟨.members hrole (mem_ids_members h.toSound id), rfl⟩
  | false =>
    rw [hread, if_neg (by simp [hrole])]
    exact ⟨.unknownRole (by simp [roster, hrole, MemberCall.role]) rfl, rfl⟩

/-- A willing store goes by rosters, and stays willing. -/
theorem goesBy_gateway (m : Moment) : GoesBy (gateway m.fresh m.now) roster Willing := by
  intro s h c
  cases c with
  | change id o =>
    rw [run_make_change]
    exact step_change h id o
  | getRole id =>
    obtain ⟨hstep, hsame⟩ := step_getRole h m id
    rw [run_make_getRole]
    exact ⟨hstep, hsame.symm ▸ h⟩
  | members id =>
    obtain ⟨hstep, hsame⟩ := step_members h m id
    rw [run_make_members]
    exact ⟨hstep, hsame.symm ▸ h⟩

end Rolebook.Store
