import Rolebook.Proofs.Store.Writes

/-!
# Calling a store directly

An administrator brings what it sends into normal form, and reads a role before changing it. A store
does the same work again: it makes the role from whatever it is given, and it looks at the role it
changes. So whoever calls the store directly gets what an administrator gets
(`administered_eq_direct`).

* `Role.ofInput_normal`: a role is made alike from texts and permissions in normal form and from
  those that were given.
* `Intact.resolve_keepFirst`: permissions asked for more than once are found as if each were asked
  for once, and the first that is not registered is the same.
* `run_guarded_direct`: reading a role first turns away just those changes that the store would turn
  away, as long as the change itself has nothing else to complain about.
-/

namespace Rolebook

/-! ## Normal form once more -/

/-- A text that may be missing is kept the same in its normal form. -/
theorem ofOption_normalText (o : Option String) :
    NonBlank.ofOption (normalText o) = NonBlank.ofOption o := by
  rw [normalText, NonBlank.ofOption_text]

/-- A role made of what is in normal form already is the role made of what was given. -/
theorem Role.ofInput_normal (input : RoleInput) {name : NonBlank}
    (h : NonBlank.ofText? input.name = some name) :
    ofInput { input with
      name := name.text
      displayName := normalText input.displayName
      description := normalText input.description
      permissions := keepFirst (·.id) input.permissions } = ofInput input := by
  have hread : NonBlank.read input.name = .ok name := by rw [NonBlank.read, h]
  rw [ofInput_of_name name rfl, ofInput, hread]
  refine congrArg Except.ok (ext rfl rfl ?_ ?_ rfl ?_ rfl rfl rfl)
  · show (NonBlank.ofOption (normalText input.displayName)).getD name = _
    rw [ofOption_normalText]
    rfl
  · exact ofOption_normalText input.description
  · exact keepFirst_of_nodup (nodup_keepFirst _ _)

namespace Store

variable {s : Store}

/-! ## Permissions -/

/-- The permissions under the ids of stored permissions are those permissions. -/
theorem filterMap_find?_ids {permissions : List Permission}
    (h : ∀ p ∈ permissions, s.permissions.find? p.id = some p) :
    (permissions.map (·.id)).filterMap s.permissions.find? = permissions := by
  induction permissions with
  | nil => rfl
  | cons p permissions ih =>
    rw [List.map_cons, List.filterMap_cons, h p (List.mem_cons_self ..),
      ih fun q hq => h q (List.mem_cons_of_mem _ hq)]

/-- Permissions asked for again and again are found as if each were asked for once. -/
theorem Intact.resolve_keepFirst (hs : s.Intact) (ids : List PermissionId) :
    s.resolve (keepFirst id ids) = (s.resolve ids).map (keepFirst (·.id)) := by
  have hfirst : (keepFirst id ids).find? (fun p => !s.permissions.contains p)
      = ids.find? fun p => !s.permissions.contains p :=
    find?_keepFirst id (fun p => !s.permissions.contains p) ids
  rw [resolve_eq, hfirst]
  cases hp : ids.find? fun p => !s.permissions.contains p with
  | some p =>
    rw [resolve_eq, hp]
    rfl
  | none =>
    have hfound : s.resolve ids = .ok (ids.filterMap s.permissions.find?) := by rw [resolve_eq, hp]
    obtain ⟨hids, hregistered⟩ := ids_of_resolve hs hfound
    rw [hfound]
    refine congrArg Except.ok ?_
    generalize ids.filterMap s.permissions.find? = permissions at hids hregistered
    rw [← hids, keepFirst_map]
    exact filterMap_find?_ids fun p hp => hregistered p ((sublist_keepFirst _ _).subset hp)

/-! ## Changes in normal form -/

/-- A draft brings in the role that its normal form brings in, or fails for the same reason. -/
theorem Intact.created_normal (hs : s.Intact) {d : RoleDraft} {name : NonBlank}
    (hname : NonBlank.ofText? d.name = some name) (fresh : RoleId) (now : Instant) :
    s.created fresh now (d.normal name) = s.created fresh now d := by
  rw [created, created]
  show (s.resolve (keepFirst id d.permissions) >>= _) = _
  rw [hs.resolve_keepFirst]
  cases s.resolve d.permissions with
  | error fault => rfl
  | ok permissions =>
    have hmade : drafted fresh now (d.normal name) (keepFirst (·.id) permissions)
        = drafted fresh now d permissions := by
      rw [drafted, drafted]
      exact Role.ofInput_normal {
        id := fresh
        name := d.name
        displayName := d.displayName
        description := d.description
        permissions := permissions
        createdAt := some now } hname
    show (drafted fresh now (d.normal name) (keepFirst (·.id) permissions) >>= _) = _
    rw [hmade]
    rfl

/-- An edit makes of a stored role what its normal form makes of it. -/
theorem Intact.revised_normal (hs : s.Intact) (now : Instant) (role : RoleId) (e : RoleEdit) :
    s.revised now role e.normal = s.revised now role e := by
  rw [revised, revised]
  show (s.resolve (keepFirst id e.permissions) >>= _) = _
  rw [hs.resolve_keepFirst]
  cases s.resolve e.permissions with
  | error fault => rfl
  | ok permissions =>
    show (s.mutableRole role >>= fun r => edited r now e.normal (keepFirst (·.id) permissions))
      = s.mutableRole role >>= fun r => edited r now e permissions
    refine congrArg (s.mutableRole role >>= ·) (funext fun r => ?_)
    rw [edited, edited]
    exact Role.ofInput_normal {
      id := r.id
      name := r.name.text
      displayName := e.displayName
      description := e.description
      permissions := permissions
      createdAt := r.createdAt
      updatedAt := some now } (NonBlank.ofText?_text r.name)

/-- A draft without a name brings in nothing: if its permissions are found, the name is missed. -/
theorem created_blank {d : RoleDraft} (hblank : Text.trim d.name = "") (s : Store) (fresh : RoleId)
    (now : Instant) : ∃ fault, s.created fresh now d = .error fault ∧ fault.kind = .validation := by
  rw [created, resolve_eq]
  cases d.permissions.find? fun p => !s.permissions.contains p with
  | some p => exact ⟨.unknownPermission p, rfl, rfl⟩
  | none =>
    have hmade : ∀ permissions, drafted fresh now d permissions = .error .blank := by
      intro permissions
      rw [drafted, Role.ofInput, NonBlank.read, (NonBlank.ofText?_eq_none_iff d.name).mpr hblank]
      rfl
    refine ⟨.blank, ?_, rfl⟩
    show (drafted fresh now d _ >>= _) = _
    rw [hmade]
    rfl

/-! ## The check before a change -/

/-- Reading the role first comes to looking whether it can be changed. -/
theorem run_guarded_direct {α : Type} (m : Moment) (limits : Limits) (id : RoleId)
    (x : Attempt (StateM Store) α) (s : Store) :
    ((administrator m limits).requireMutable id >>= fun _ => x).run.run s =
      match s.mutableRole id with
      | .ok _ => x.run.run s
      | .error fault => (.error fault, s) := by
  have hread : ((administrator m limits).gateway.getRole id).run.run s = _ := exec_getRole id s
  rw [Administrator.run_guarded, hread, mutableRole]
  cases s.role id with
  | error fault => rfl
  | ok r =>
    show (if r.isSystem then (.error (.systemRole r.name.text), s) else x.run.run s) = _
    show _ = match (r.ensureMutable >>= fun _ => pure r : Except Fault Role) with
      | .ok _ => x.run.run s
      | .error fault => (.error fault, s)
    rw [Role.ensureMutable]
    cases r.isSystem <;> rfl

/-! ## Call by call -/

section Calls

variable (m : Moment) (limits : Limits)

/-- With a name that is not blank, a creation comes to the same through an administrator and without
one. -/
theorem Intact.run_createRole_direct (hs : s.Intact) {d : RoleDraft} {name : NonBlank}
    (hname : NonBlank.ofText? d.name = some name) :
    ((administrator m limits).createRole d).run.run s
      = ((gateway m.fresh m.now).createRole d).run.run s := by
  have hdirect : ((gateway m.fresh m.now).createRole d).run.run s = _ :=
    exec_createRole m.fresh m.now d s
  have hsent : ((gateway m.fresh m.now).createRole (d.normal name)).run.run s = _ :=
    exec_createRole m.fresh m.now (d.normal name) s
  rw [hs.created_normal hname, ← hdirect] at hsent
  rw [Administrator.run_createRole, hname]
  exact hsent

/-- Under a blank name nothing is created, whoever is asked. -/
theorem run_createRole_blank {d : RoleDraft} (hblank : Text.trim d.name = "") (s : Store) :
    ∃ fault fault', fault.kind = .validation ∧ fault'.kind = .validation ∧
      ((administrator m limits).createRole d).run.run s = (.error fault, s) ∧
      ((gateway m.fresh m.now).createRole d).run.run s = (.error fault', s) := by
  have hdirect : ((gateway m.fresh m.now).createRole d).run.run s = _ :=
    exec_createRole m.fresh m.now d s
  obtain ⟨fault, hcreated, hkind⟩ := created_blank hblank s m.fresh m.now
  rw [hcreated] at hdirect
  refine ⟨.blank, fault, rfl, hkind, ?_, hdirect⟩
  rw [Administrator.run_createRole, (NonBlank.ofText?_eq_none_iff d.name).mpr hblank]

/-- An update does the same either way unless it is refused for two reasons at once: which of them
is named then depends on which is looked for first. -/
theorem Intact.run_updateRole_direct (hs : s.Intact) {id : RoleId} {e : RoleEdit}
    (h : (∃ r, s.roles.find? id = some r ∧ r.isSystem = false) ∨
      ∀ p ∈ e.permissions, s.permissions.contains p = true) :
    ((administrator m limits).updateRole id e).run.run s
      = ((gateway m.fresh m.now).updateRole id e).run.run s := by
  have hdirect : ((gateway m.fresh m.now).updateRole id e).run.run s = _ :=
    exec_updateRole m.now id e s
  have hsent : ((gateway m.fresh m.now).updateRole id e.normal).run.run s = _ :=
    exec_updateRole m.now id e.normal s
  have hguarded : ((administrator m limits).updateRole id e).run.run s = _ :=
    run_guarded_direct m limits id ((gateway m.fresh m.now).updateRole id e.normal) s
  rw [hs.revised_normal] at hsent
  rw [hguarded, hdirect]
  cases hm : s.mutableRole id with
  | ok r => exact hsent
  | error fault =>
    -- a role that cannot be changed leaves the second case: nothing is said of permissions first
    have hrevised : s.revised m.now id e = .error fault := by
      rcases h with ⟨r, hr, hcustom⟩ | hregistered
      · rw [mutableRole_of_custom hr hcustom] at hm
        cases hm
      · have hknown : (e.permissions.find? fun p => !s.permissions.contains p) = none :=
          List.find?_eq_none.mpr fun p hp => by rw [hregistered p hp]; decide
        rw [revised, resolve_eq, hknown, hm]
        rfl
    rw [hrevised]

/-- A deletion comes to the same through an administrator and without one: both refuse what is
missing or a system role. -/
theorem run_deleteRole_direct (id : RoleId) (s : Store) :
    ((administrator m limits).deleteRole id).run.run s
      = ((gateway m.fresh m.now).deleteRole id).run.run s := by
  have hdirect : ((gateway m.fresh m.now).deleteRole id).run.run s = _ := exec_deleteRole id s
  have hguarded : ((administrator m limits).deleteRole id).run.run s = _ :=
    run_guarded_direct m limits id ((gateway m.fresh m.now).deleteRole id) s
  rw [hguarded, hdirect]
  cases s.mutableRole id <;> rfl

end Calls

/-- **Through an administrator or not.** On a store left by any run of invocations, an
administrator's calls do what the store's own calls do, down to the answer and the words of a fault:
creating a role under a name that is not blank, deleting any role, and updating a role that is
stored and custom, or to permissions that are all registered. Under a blank name nothing is created
either way, and the fault is one of validation. -/
theorem administered_eq_direct (history : List Invocation) (m : Moment) (limits : Limits) :
    let s := empty.undergo history
    let a := administrator m limits
    let g := gateway m.fresh m.now
    (∀ d : RoleDraft,
      if Text.trim d.name = "" then
        ∃ fault fault', fault.kind = .validation ∧ fault'.kind = .validation ∧
          (a.createRole d).run.run s = (.error fault, s) ∧
          (g.createRole d).run.run s = (.error fault', s)
      else (a.createRole d).run.run s = (g.createRole d).run.run s) ∧
    (∀ (id : RoleId) (e : RoleEdit),
      (∃ r, s.roles.find? id = some r ∧ r.isSystem = false) ∨
        (∀ p ∈ e.permissions, s.permissions.contains p = true) →
      (a.updateRole id e).run.run s = (g.updateRole id e).run.run s) ∧
    ∀ id : RoleId, (a.deleteRole id).run.run s = (g.deleteRole id).run.run s := by
  intro s a g
  have hs : s.Intact := intact_undergo history
  refine ⟨fun d => ?_, fun id e h => hs.run_updateRole_direct m limits h,
    fun id => run_deleteRole_direct m limits id s⟩
  split
  next hblank => exact run_createRole_blank m limits hblank s
  next hnot =>
    cases hname : NonBlank.ofText? d.name with
    | none => exact absurd ((NonBlank.ofText?_eq_none_iff d.name).mp hname) hnot
    | some name => exact hs.run_createRole_direct m limits hname

/-- Readers are created, and the role there is updated and deleted, with the same answers either
way, although the permission is asked for twice. -/
theorem administered_eq_direct_staffed :
    let s := empty.undergo staffed
    let a := administrator someMoment {}
    let g := gateway someMoment.fresh someMoment.now
    let e : RoleEdit := { permissions := [reading.id, reading.id] }
    (∃ r t, (a.createRole readers).run.run s = (.ok r, t) ∧
      (g.createRole readers).run.run s = (.ok r, t)) ∧
    (∃ r t, (a.updateRole editorsId e).run.run s = (.ok r, t) ∧
      (g.updateRole editorsId e).run.run s = (.ok r, t)) ∧
    ∃ t, (a.deleteRole editorsId).run.run s = (.ok (), t) ∧
      (g.deleteRole editorsId).run.run s = (.ok (), t) := by
  have hcreation : ∃ r t, ((administrator someMoment {}).createRole readers).run.run
      (empty.undergo staffed) = (.ok r, t) := ⟨_, _, rfl⟩
  have hchange : ∃ r t, ((administrator someMoment {}).updateRole editorsId
      { permissions := [reading.id, reading.id] }).run.run (empty.undergo staffed) = (.ok r, t) :=
    ⟨_, _, rfl⟩
  have hdeletion : ∃ t, ((administrator someMoment {}).deleteRole editorsId).run.run
      (empty.undergo staffed) = (.ok (), t) := ⟨_, rfl⟩
  have hstored : ∃ r, (empty.undergo staffed).roles.find? editorsId = some r ∧
      r.isSystem = false := ⟨_, rfl, rfl⟩
  obtain ⟨r, t, hcreation⟩ := hcreation
  obtain ⟨r', t', hchange⟩ := hchange
  obtain ⟨u, hdeletion⟩ := hdeletion
  obtain ⟨hcreate, hupdate, hdelete⟩ := administered_eq_direct staffed someMoment {}
  have hcreate := hcreate readers
  rw [if_neg (by decide)] at hcreate
  intro s a g e
  exact ⟨⟨r, t, hcreation, hcreate.symm.trans hcreation⟩,
    ⟨r', t', hchange, (hupdate editorsId e (.inl hstored)).symm.trans hchange⟩,
    u, hdeletion, (hdelete editorsId).symm.trans hdeletion⟩

end Store

end Rolebook
