import Rolebook.Proofs.Ordered.Map
import Rolebook.Proofs.Store.Calls

/-!
# Runs of a store

A store changes by acts: something is put into it, failures are arranged or cleared, or a call is
made. `after` is what a run of acts leaves, and the stores that matter are those left by a run on
the empty store.

* `Step`: what an act can leave, one constructor for each way; `step_apply` says that there is no
  other. What a step keeps is shown by cases on it, and carries over to runs.
* `sound_after`: whatever the acts were, roles and users stand under their own ids and every user
  who holds a role is registered (`Sound`).
* `spares_after`: acts that leave a role alone (`Act.Spares`) change neither the role nor who holds
  it.
-/

namespace Rolebook

/-- What a call leaves of a backend's state, whatever it answers. -/
def Gateway.Call.leave {σ : Type} (g : Gateway (StateM σ)) (s : σ) : Gateway.Call → σ
  | .listRoles => (g.listRoles.run.run s).2
  | .getRole id => ((g.getRole id).run.run s).2
  | .createRole d => ((g.createRole d).run.run s).2
  | .updateRole id e => ((g.updateRole id e).run.run s).2
  | .deleteRole id => ((g.deleteRole id).run.run s).2
  | .listPermissions => (g.listPermissions.run.run s).2
  | .listUsers => (g.listUsers.run.run s).2
  | .members id => ((g.listMembers id).run.run s).2
  | .change id o => ((g.change id o).run.run s).2

namespace Store

/-- Something done to a store from outside. -/
inductive Act where
  | insertUser (u : User)
  | insertPermission (p : Permission)
  | insertRole (r : Role)
  | failFor (u : UserId)
  | clearFailures
  | call (m : Moment) (c : Gateway.Call)

/-- The store after an act. A role whose name is taken is not put in. -/
def Act.apply (s : Store) : Act → Store
  | .insertUser u => s.insertUser u
  | .insertPermission p => s.insertPermission p
  | .insertRole r =>
    match s.insertRole r with
    | .ok s' => s'
    | .error _ => s
  | .failFor u => s.failFor u
  | .clearFailures => s.clearFailures
  | .call m c => c.leave (gateway m.fresh m.now) s

/-- The store after a run of acts. -/
def after (s : Store) (acts : List Act) : Store := acts.foldl Act.apply s

/-- A call leaves what its effect allows. -/
theorem effect_leave (m : Moment) (c : Gateway.Call) (s : Store) :
    Effect m s c (c.leave (gateway m.fresh m.now) s) := by
  cases c with
  | listRoles =>
    show Effect m s _ (exec listRoles s).2
    rw [exec_listRoles]
    exact .nothing _
  | getRole id =>
    show Effect m s _ (exec (getRole id) s).2
    rw [exec_getRole]
    exact .nothing _
  | createRole d => exact effect_createRole m d s
  | updateRole id e => exact effect_updateRole m id e s
  | deleteRole id => exact effect_deleteRole m id s
  | listPermissions => exact .nothing _
  | listUsers => exact .nothing _
  | members id =>
    show Effect m s _ (exec (listMembers id) s).2
    rw [exec_listMembers]
    cases s.roles.contains id <;> exact .nothing _
  | change id o => exact effect_change m id o s

/-- A role whose name is taken is not put in. -/
theorem apply_of_refused {s : Store} {r : Role} {fault : Fault} (h : s.insertRole r = .error fault) :
    (Act.insertRole r).apply s = s := by
  simp only [Act.apply, h]

/-- A role whose name is free is put in as it is. -/
theorem apply_of_free {s : Store} {r : Role} (h : s.ensureUniqueName r.name (some r.id) = .ok ()) :
    (Act.insertRole r).apply s = s.putRole r := by
  simp only [Act.apply, insertRole, h, Except.map]

/-- What an act of any kind can leave. -/
inductive Step (s : Store) : Act → Store → Prop where
  | insertUser (u : User) : Step s (.insertUser u) (s.insertUser u)
  | insertPermission (p : Permission) : Step s (.insertPermission p) (s.insertPermission p)
  | insertRole {r : Role} (free : s.ensureUniqueName r.name (some r.id) = .ok ()) :
      Step s (.insertRole r) (s.putRole r)
  | nameTaken (r : Role) : Step s (.insertRole r) s
  | failFor (u : UserId) : Step s (.failFor u) (s.failFor u)
  | clearFailures : Step s .clearFailures s.clearFailures
  | call {m : Moment} {c : Gateway.Call} {s' : Store} (effect : Effect m s c s') :
      Step s (.call m c) s'

/-- There is nothing else that an act can leave. -/
theorem step_apply (s : Store) (a : Act) : Step s a (a.apply s) := by
  cases a with
  | insertUser u => exact .insertUser u
  | insertPermission p => exact .insertPermission p
  | insertRole r =>
    cases h : s.ensureUniqueName r.name (some r.id) with
    | ok _ => rw [apply_of_free h]; exact .insertRole h
    | error fault =>
      have hrefused : s.insertRole r = .error fault := by rw [Store.insertRole, h]; rfl
      rw [apply_of_refused hrefused]
      exact .nameTaken r
  | failFor u => exact .failFor u
  | clearFailures => exact .clearFailures
  | call m c => exact .call (effect_leave m c s)

/-- A role, a user, and calls for the user made to fail. -/
def unlucky : List Act :=
  let name : NonBlank := ⟨"Editors", by decide, by decide⟩
  [.insertRole ⟨⟨⟨7, by decide⟩⟩, name, name, none, false, [], 0, none, none, List.nodup_nil⟩,
    .insertUser ⟨⟨⟨1, by decide⟩⟩, "ada", none, none⟩,
    .failFor ⟨⟨1, by decide⟩⟩]

/-- A moment at which nothing new is made. -/
def someMoment : Moment :=
  ⟨⟨⟨8, by decide⟩⟩, ⟨2024, 5, 17⟩, 0, 0, by decide, by decide, by decide⟩

def editorsId : RoleId := ⟨⟨7, by decide⟩⟩

/-- A role that claims to have so many users. -/
def editors (isSystem : Bool) (userCount : UInt32) : Role :=
  let name : NonBlank := ⟨"Editors", by decide, by decide⟩
  ⟨editorsId, name, name, none, isSystem, [], userCount, none, none, List.nodup_nil⟩

def ada : User := ⟨⟨⟨1, by decide⟩⟩, "ada", none, none⟩

/-! ## What every run keeps -/

/-- Roles and users stand under their own ids, and who holds a role is registered. -/
structure Sound (s : Store) : Prop where
  roleKeyed : ∀ {id : RoleId} {r : Role}, s.roles.find? id = some r → r.id = id
  userKeyed : ∀ {id : UserId} {u : User}, s.users.find? id = some u → u.id = id
  holderKnown : ∀ {a : Assignment}, a ∈ s.assignments → s.users.contains a.user = true

theorem sound_empty : Sound empty where
  roleKeyed h := by cases h
  userKeyed h := by cases h
  holderKnown h := absurd h (SortedSet.not_mem_empty _)

/-- Fewer assignments and other permissions and failures make no difference. -/
theorem Sound.of_fewer {s s' : Store} (h : s.Sound)
    (hr : ∀ {id r}, s'.roles.find? id = some r → s.roles.find? id = some r)
    (hu : s'.users = s.users) (ha : ∀ {a}, a ∈ s'.assignments → a ∈ s.assignments) : s'.Sound where
  roleKeyed hf := h.roleKeyed (hr hf)
  userKeyed hf := h.userKeyed (hu ▸ hf)
  holderKnown hm := hu ▸ h.holderKnown (ha hm)

theorem Sound.insertUser {s : Store} (h : s.Sound) (u : User) : (s.insertUser u).Sound where
  roleKeyed := h.roleKeyed
  userKeyed := SortedMap.key_of_insert h.userKeyed
  holderKnown hm := SortedMap.contains_insert (h.holderKnown hm) u.id u

theorem Sound.putRole {s : Store} (h : s.Sound) (r : Role) : (s.putRole r).Sound where
  roleKeyed := SortedMap.key_of_insert h.roleKeyed
  userKeyed := h.userKeyed
  holderKnown := h.holderKnown

/-- What is still found was found before. -/
theorem find?_dropRole {s : Store} {id k : RoleId} {r : Role}
    (h : (s.dropRole id).roles.find? k = some r) : s.roles.find? k = some r := by
  have h : (s.roles.erase id).find? k = some r := h
  rw [SortedMap.find?_erase] at h
  split at h
  next => cases h
  next => exact h

theorem mem_dropAssignments {s : Store} {id : RoleId} {a : Assignment} :
    a ∈ (s.dropAssignments id).assignments ↔ a ∈ s.assignments ∧ a.role ≠ id := by
  show a ∈ s.assignments.filter _ ↔ _
  rw [SortedSet.mem_filter, decide_eq_true_eq]

/-- An accepted change that gives a role gives it to a registered user. -/
theorem known_of_accepted {s : Store} {id : RoleId} {u : UserId}
    (h : s.refusal? id (.assign u) = none) : s.users.contains u = true := by
  unfold refusal? at h
  split at h
  next =>
    cases hk : s.users.contains u with
    | true => rfl
    | false =>
      have hf : s.fails (.assign u) = true := by simp [fails, hk]
      rw [hf] at h
      cases h
  next => cases h

/-- A change that is not refused adds no assignment for a user who is not stored. -/
theorem Sound.applyChange {s : Store} {id : RoleId} {o : Operation} (h : s.Sound)
    (ho : s.refusal? id o = none) : (s.applyChange id o).Sound := by
  cases o with
  | assign u =>
    refine ⟨h.roleKeyed, h.userKeyed, fun {a} hm => ?_⟩
    rcases SortedSet.mem_insert.mp hm with rfl | hm
    · exact known_of_accepted ho
    · exact h.holderKnown hm
  | unassign u => exact h.of_fewer (fun hf => hf) rfl fun hm => (SortedSet.mem_erase.mp hm).1

/-- Each step keeps a store sound. -/
theorem Sound.step {s s' : Store} {a : Act} (h : s.Sound) (hs : Step s a s') : s'.Sound := by
  cases hs with
  | insertUser u => exact h.insertUser u
  | insertPermission | failFor | clearFailures =>
    exact h.of_fewer (fun hf => hf) rfl fun hm => hm
  | insertRole => exact h.putRole _
  | nameTaken => exact h
  | call effect =>
    cases effect with
    | nothing => exact h
    | create => exact h.putRole _
    | update => exact h.putRole _
    | delete => exact h.of_fewer find?_dropRole rfl fun hm => (mem_dropAssignments.mp hm).1
    | change accepted => exact h.applyChange accepted

/-- One act keeps a store sound. -/
theorem Sound.apply {s : Store} (h : s.Sound) (a : Act) : (a.apply s).Sound :=
  h.step (step_apply s a)

/-- A run keeps a store sound. -/
theorem Sound.after {s : Store} (h : s.Sound) (acts : List Act) : (s.after acts).Sound := by
  induction acts generalizing s with
  | nil => exact h
  | cons a acts ih => exact ih (h.apply a)

/-- Every store that a run from the empty one leaves is sound. -/
theorem sound_after (acts : List Act) : (empty.after acts).Sound := sound_empty.after acts

/-! ## What leaves a role alone -/

/-- An act that is not about a role: it neither puts in, changes nor deletes the role, and does not
change its members. -/
def Act.Spares (id : RoleId) : Act → Prop
  | .insertRole r => r.id ≠ id
  | .call m (.createRole _) => m.fresh ≠ id
  | .call _ (.updateRole other _) => other ≠ id
  | .call _ (.deleteRole other) => other ≠ id
  | .call _ (.change other _) => other ≠ id
  | _ => True

/-- Two stores have the same role under an id, and the same users hold it. -/
structure SameRole (id : RoleId) (s s' : Store) : Prop where
  role : s'.roles.find? id = s.roles.find? id
  holders : ∀ u : UserId, ⟨u, id⟩ ∈ s'.assignments ↔ (⟨u, id⟩ : Assignment) ∈ s.assignments

theorem SameRole.refl (id : RoleId) (s : Store) : SameRole id s s := ⟨rfl, fun _ => Iff.rfl⟩

theorem SameRole.trans {id : RoleId} {s₁ s₂ s₃ : Store} (h : SameRole id s₁ s₂)
    (k : SameRole id s₂ s₃) : SameRole id s₁ s₃ :=
  ⟨k.role.trans h.role, fun u => (k.holders u).trans (h.holders u)⟩

/-- To put in a role does not touch another one. -/
theorem sameRole_putRole (s : Store) {id : RoleId} {r : Role} (h : r.id ≠ id) :
    SameRole id s (s.putRole r) :=
  ⟨SortedMap.find?_insert_ne s.roles r h, fun _ => Iff.rfl⟩

/-- To delete a role does not touch another one. -/
theorem sameRole_delete (s : Store) {id other : RoleId} (h : other ≠ id) :
    SameRole id s ((s.dropRole other).dropAssignments other) := by
  refine ⟨?_, fun u => ?_⟩
  · show (s.roles.erase other).find? id = _
    rw [SortedMap.find?_erase, if_neg (Ranked.rank_ne h)]
  · rw [mem_dropAssignments]
    exact ⟨fun hm => hm.1, fun hm => ⟨hm, fun e => h e.symm⟩⟩

/-- A change does not touch the assignments of other roles. -/
theorem mem_applyChange_of_ne (s : Store) {id : RoleId} (o : Operation) {a : Assignment}
    (h : a.role ≠ id) : a ∈ (s.applyChange id o).assignments ↔ a ∈ s.assignments := by
  cases o with
  | assign u =>
    refine SortedSet.mem_insert.trans ⟨fun hm => ?_, Or.inr⟩
    rcases hm with rfl | hm
    · exact absurd rfl h
    · exact hm
  | unassign u =>
    refine SortedSet.mem_erase.trans ⟨fun hm => hm.1, fun hm => ⟨hm, ?_⟩⟩
    rintro rfl
    exact h rfl

theorem sameRole_applyChange (s : Store) {id other : RoleId} (o : Operation) (h : other ≠ id) :
    SameRole id s (s.applyChange other o) := by
  refine ⟨?_, fun u => mem_applyChange_of_ne s o fun e => h e.symm⟩
  cases o <;> rfl

/-- A role has the id that it was made with. -/
theorem id_of_ofInput {input : RoleInput} {r : Role} (h : Role.ofInput input = .ok r) :
    r.id = input.id := by
  obtain ⟨name, rfl⟩ := Role.exists_eq_named h
  rfl

theorem find?_of_role {s : Store} {id : RoleId} {r : Role} (hr : s.role id = .ok r) :
    s.roles.find? id = some r := by
  unfold Store.role at hr
  split at hr
  next hf => cases hr; exact hf
  next => cases hr

/-- A role is found under its own id. -/
theorem Sound.id_of_role {s : Store} (h : s.Sound) {id : RoleId} {r : Role}
    (hr : s.role id = .ok r) : r.id = id := h.roleKeyed (find?_of_role hr)

/-- What spares a role leaves it as it is. -/
theorem Act.Spares.step {id : RoleId} {a : Act} (h : a.Spares id) {s s' : Store} (hs : s.Sound)
    (hstep : Step s a s') : SameRole id s s' := by
  cases hstep with
  | insertUser | insertPermission | failFor | clearFailures => exact ⟨rfl, fun _ => Iff.rfl⟩
  | insertRole => exact sameRole_putRole s h
  | nameTaken => exact .refl id s
  | call effect =>
    cases effect with
    | nothing => exact .refl id s
    | create _ made => exact sameRole_putRole s fun e => h ((id_of_ofInput made).symm.trans e)
    | update _ found _ made =>
      have hid := (id_of_ofInput made).trans (hs.id_of_role found)
      exact sameRole_putRole s fun e => h (hid.symm.trans e)
    | delete => exact sameRole_delete s h
    | change => exact sameRole_applyChange s _ h

/-- One act that spares a role leaves it alone. -/
theorem Act.Spares.apply {id : RoleId} {a : Act} (h : a.Spares id) {s : Store} (hs : s.Sound) :
    SameRole id s (a.apply s) := h.step hs (step_apply s a)

/-- A run of acts that spare a role leaves it alone. -/
theorem spares_after {id : RoleId} {acts : List Act} (h : ∀ a ∈ acts, a.Spares id) {s : Store}
    (hs : s.Sound) : SameRole id s (s.after acts) := by
  induction acts generalizing s with
  | nil => exact .refl id s
  | cons a acts ih =>
    have ha := (h a (List.mem_cons_self ..)).apply hs
    exact ha.trans (ih (fun b hb => h b (List.mem_cons_of_mem _ hb)) (hs.apply a))

end Store

end Rolebook
