import Rolebook.Proofs.Administrator.Members

/-!
# What administering roles comes to

An administrator whose gateway changes a state: each function on single roles gets one equation for
its run, in terms of the runs of the gateway's own calls. An update and a deletion begin in the same
way, with a reading of the role that decides whether they go on (`run_guarded`).

A role is searched by name in a list. Where at most one role goes by the name, the search finds just
what is there (`roleNamed_eq_ok_iff`), in whatever order the roles are listed (`roleNamed_perm`).
-/

namespace Rolebook.Administrator

variable {σ α : Type} (a : Administrator (StateM σ)) (id : RoleId)

/-- A reference that spells an id is looked up as that id, and no other way. -/
theorem run_findRole (reference : String) (s : σ) :
    (a.findRole reference).run.run s =
      match (Id.read reference : Except Fault RoleId) with
      | .ok id => (a.gateway.getRole id).run.run s
      | .error _ =>
        match a.gateway.listRoles.run.run s with
        | (.ok roles, s') => (roleNamed (Text.trim reference) roles, s')
        | (.error fault, s') => (.error fault, s') := by
  unfold findRole
  cases (Id.read reference : Except Fault RoleId) with
  | ok id => rfl
  | error fault =>
    dsimp only
    rw [run_attempt_bind]
    cases a.gateway.listRoles.run.run s with
    | mk result s' =>
      cases result with
      | ok roles => exact run_liftExcept _ s'
      | error fault => rfl

/-- A blank name is refused before anything is called. -/
theorem run_createRole (d : RoleDraft) (s : σ) :
    (a.createRole d).run.run s =
      match NonBlank.ofText? d.name with
      | some name => (a.gateway.createRole (d.normal name)).run.run s
      | none => (.error .blank, s) := by
  unfold createRole NonBlank.read
  cases NonBlank.ofText? d.name <;> rfl

/-- A role may be changed if it is there and no system role; reading it is the only call. -/
theorem run_requireMutable (s : σ) :
    (a.requireMutable id).run.run s =
      match (a.gateway.getRole id).run.run s with
      | (.ok r, s') => (r.ensureMutable, s')
      | (.error fault, s') => (.error fault, s') := by
  rw [requireMutable, run_attempt_bind]
  cases (a.gateway.getRole id).run.run s with
  | mk result s' =>
    cases result with
    | ok r => exact run_liftExcept _ s'
    | error fault => rfl

/-- What comes after the check is done only for a role that is found and can be changed. -/
theorem run_guarded (x : Attempt (StateM σ) α) (s : σ) :
    (a.requireMutable id >>= fun _ => x).run.run s =
      match (a.gateway.getRole id).run.run s with
      | (.ok r, s') =>
        if r.isSystem then (.error (.systemRole r.name.text), s') else x.run.run s'
      | (.error fault, s') => (.error fault, s') := by
  rw [run_attempt_bind, run_requireMutable]
  cases (a.gateway.getRole id).run.run s with
  | mk result s' =>
    cases result with
    | error fault => rfl
    | ok r =>
      dsimp only
      unfold Role.ensureMutable
      cases r.isSystem <;> rfl

/-! ## Searching a list -/

variable {name : String} {roles roles' : List Role} {r : Role}

/-- At most one role of a list goes by a name. -/
def OneNamed (name : String) (roles : List Role) : Prop :=
  ∀ r ∈ roles, ∀ r' ∈ roles, Text.sameLetters r.name.text name = true →
    Text.sameLetters r'.name.text name = true → r = r'

/-- A name that no role goes by finds none. -/
theorem roleNamed_eq_error (h : ∀ r ∈ roles, Text.sameLetters r.name.text name = false) :
    roleNamed name roles = .error (.noRoleNamed name) := by
  have hnone : roles.find? (fun r => Text.sameLetters r.name.text name) = none := by
    rw [List.find?_eq_none]
    intro r hr
    rw [h r hr]
    exact Bool.false_ne_true
  rw [roleNamed, hnone]

/-- What is found is on the list and goes by the name. -/
theorem goes_of_roleNamed (h : roleNamed name roles = .ok r) :
    r ∈ roles ∧ Text.sameLetters r.name.text name = true := by
  unfold roleNamed at h
  split at h
  next found hfound =>
    cases h
    exact ⟨List.mem_of_find?_eq_some hfound,
      List.find?_some (p := fun r : Role => Text.sameLetters r.name.text name) hfound⟩
  next => cases h

/-- A role is found just if it goes by the name, where no other does. -/
theorem roleNamed_eq_ok_iff (hone : OneNamed name roles) :
    roleNamed name roles = .ok r ↔ r ∈ roles ∧ Text.sameLetters r.name.text name = true := by
  constructor
  · exact goes_of_roleNamed
  · rintro ⟨hmem, hgoes⟩
    cases hfound : roles.find? fun r => Text.sameLetters r.name.text name with
    | none =>
      have hnot := List.find?_eq_none.mp hfound r hmem
      exact absurd hgoes hnot
    | some found =>
      have hok : roleNamed name roles = .ok found := by rw [roleNamed, hfound]
      obtain ⟨hmem', hgoes'⟩ := goes_of_roleNamed hok
      rw [hok, hone found hmem' r hmem hgoes' hgoes]

/-- The order of a list does not matter where at most one role goes by the name. -/
theorem roleNamed_perm (hone : OneNamed name roles) (hp : roles'.Perm roles) :
    roleNamed name roles' = roleNamed name roles := by
  have hone' : OneNamed name roles' := by
    intro r hr r' hr'
    exact hone r (hp.mem_iff.mp hr) r' (hp.mem_iff.mp hr')
  by_cases hsome : ∃ r ∈ roles, Text.sameLetters r.name.text name = true
  · obtain ⟨r, hr, hgoes⟩ := hsome
    rw [(roleNamed_eq_ok_iff hone).mpr ⟨hr, hgoes⟩,
      (roleNamed_eq_ok_iff hone').mpr ⟨hp.mem_iff.mpr hr, hgoes⟩]
  · have hnone : ∀ r ∈ roles, Text.sameLetters r.name.text name = false := by
      intro r hr
      exact Bool.eq_false_iff.mpr fun hgoes => hsome ⟨r, hr, hgoes⟩
    rw [roleNamed_eq_error hnone, roleNamed_eq_error fun r hr => hnone r (hp.mem_iff.mp hr)]

end Rolebook.Administrator
