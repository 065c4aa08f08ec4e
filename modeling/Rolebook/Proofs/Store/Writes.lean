import Rolebook.Proofs.Administrator.Roles
import Rolebook.Proofs.Gateway.Normal
import Rolebook.Proofs.Store.System

/-!
# Reading what was written

A role that is created or updated comes back to the administrator straight from the write, while a
reading makes it again from what is stored and counts its members anew. `reads_see_writes` says that
the two are the same role, that a role which is deleted is gone for every call, and that no write
shows anywhere else (`OthersKept`).

A new role has no members because an intact store has no assignments of a role that is not stored
(`held_eq_empty`); for the same reason a role put in again after it was deleted starts with none.
-/

namespace Rolebook.Store

variable {s t : Store} {r : Role}

/-! ## Permissions -/

/-- The permissions registered under the ids asked for, one for each id, in the order in which the
ids are first seen. -/
structure Granted (s : Store) (asked : List PermissionId) (granted : List Permission) : Prop where
  firstSeen : FirstSeen asked (granted.map (·.id))
  registered : ∀ p ∈ granted, s.permissions.find? p.id = some p

/-- The permissions that ids stand for are those stored under them. -/
theorem ids_of_resolve (hs : s.Intact) {ids : List PermissionId} {permissions : List Permission}
    (h : s.resolve ids = .ok permissions) :
    permissions.map (·.id) = ids ∧ ∀ p ∈ permissions, s.permissions.find? p.id = some p := by
  induction ids generalizing permissions with
  | nil =>
    cases h
    exact ⟨rfl, nofun⟩
  | cons p ids ih =>
    rw [resolve, List.mapM_cons] at h
    obtain ⟨found, hfound, h⟩ := bind_eq_ok_iff.mp h
    obtain ⟨rest, hrest, h⟩ := bind_eq_ok_iff.mp h
    cases h
    obtain ⟨hids, hregistered⟩ := ih hrest
    split at hfound
    next hp =>
      cases hfound
      have hid : found.id = p := hs.permissionKeyed hp
      refine ⟨?_, fun q hq => ?_⟩
      · rw [List.map_cons, hid, hids]
      · rcases List.mem_cons.mp hq with rfl | hq
        · rw [hid, hp]
        · exact hregistered q hq
    next => cases hfound

/-- A role made of the permissions found for ids without repetition is granted just these. -/
theorem granted_of_resolve (hs : s.Intact) {asked : List PermissionId}
    {permissions : List Permission} (h : s.resolve (keepFirst id asked) = .ok permissions) :
    Granted s asked (keepFirst (·.id) permissions) := by
  obtain ⟨hids, hregistered⟩ := ids_of_resolve hs h
  have hfirst := firstSeen_keepFirst asked
  rw [← hids] at hfirst
  rw [keepFirst_of_nodup hfirst.nodup]
  exact ⟨hfirst, hregistered⟩

variable {id other : RoleId}

/-! ## Other roles -/

/-- Nothing but one role is touched: every other role, its members, and all users and permissions
are the same after as before, and are read the same. -/
structure OthersKept (g : Gateway (StateM Store)) (id : RoleId) (s t : Store) : Prop where
  stored : ∀ other, other ≠ id → t.roles.find? other = s.roles.find? other
  read : ∀ other, other ≠ id →
    (g.getRole other).run.run t = (((g.getRole other).run.run s).1, t)
  members : ∀ other, other ≠ id →
    (g.listMembers other).run.run t = (((g.listMembers other).run.run s).1, t)
  users : t.users = s.users
  permissions : t.permissions = s.permissions
  failing : t.failing = s.failing

theorem SameRole.held (h : SameRole other s t) : t.held other = s.held other := by
  refine SortedSet.ext_mem fun a => ?_
  rw [mem_held, mem_held]
  refine and_congr_left fun ha => ?_
  have hsame := h.holders a.user
  rwa [← ha] at hsame

/-- Where the assignments of a role are the same, so is its count. -/
theorem SameRole.countMembers (h : SameRole other s t) :
    t.countMembers other = s.countMembers other := by
  show UInt32.ofNat (min (UInt32.size - 1) (t.held other).size) = _
  rw [h.held]
  rfl

/-- Where the assignments of a role are the same, so are its members. -/
theorem SameRole.members (h : SameRole other s t) (hu : t.users = s.users) :
    t.members other = s.members other := by
  show (t.held other).toList.filterMap (fun a => t.users.find? a.user) = _
  rw [h.held, hu]
  rfl

theorem SameRole.role_map_counted (h : SameRole other s t) (hs : s.Sound) :
    (t.role other).map t.counted = (s.role other).map s.counted := by
  have hrole : t.role other = s.role other := by rw [Store.role, h.role, Store.role]
  rw [hrole]
  cases hr : s.role other with
  | error fault => rfl
  | ok r =>
    refine congrArg Except.ok ?_
    rw [counted, counted, hs.id_of_role hr, h.countMembers]

/-- Roles that are stored as before, with the same members, are read as before. -/
theorem othersKept_of_sameRole (m : Moment) (hs : s.Sound)
    (h : ∀ other, other ≠ id → SameRole other s t) (hu : t.users = s.users)
    (hp : t.permissions = s.permissions) (hf : t.failing = s.failing) :
    OthersKept (gateway m.fresh m.now) id s t where
  stored other hne := (h other hne).role
  read other hne := by
    have hread : ∀ s : Store, ((gateway m.fresh m.now).getRole other).run.run s = _ :=
      exec_getRole other
    rw [hread, hread, (h other hne).role_map_counted hs]
  members other hne := by
    have hmembers : ∀ s : Store, ((gateway m.fresh m.now).listMembers other).run.run s = _ :=
      exec_listMembers other
    rw [hmembers, hmembers, SortedMap.contains, (h other hne).role, (h other hne).members hu]
    show _ = ((if s.roles.contains other then _ else _ : Except Fault (List User) × Store).1, t)
    rw [SortedMap.contains]
    cases (s.roles.find? other).isSome <;> rfl
  users := hu
  permissions := hp
  failing := hf

/-! ## Creation -/

/-- What shows of a role once it is created. -/
structure Creation (g : Gateway (StateM Store)) (s : Store) (asked : List PermissionId) (r : Role)
    (t : Store) : Prop where
  custom : r.isSystem = false
  nobody : r.userCount = 0
  granted : Granted s asked r.permissions
  read : (g.getRole r.id).run.run t = (.ok r, t)
  members : (g.listMembers r.id).run.run t = (.ok [], t)
  others : OthersKept g r.id s t

/-- Nobody holds a role that is not stored. -/
theorem Intact.held_eq_empty (hs : s.Intact) (hc : s.roles.contains id = false) :
    s.held id = .empty := by
  refine SortedSet.ext_mem fun a => iff_of_false (fun ha => ?_) (SortedSet.not_mem_empty a)
  obtain ⟨hmem, rfl⟩ := mem_held.mp ha
  rw [hs.roleStored hmem] at hc
  cases hc

/-- A role put in where none is stored is read with no members. -/
theorem Intact.run_listMembers_putRole (hs : s.Intact) (hc : s.roles.contains r.id = false)
    (m : Moment) :
    ((gateway m.fresh m.now).listMembers r.id).run.run (s.putRole r) = (.ok [], s.putRole r) := by
  have hstored : (s.putRole r).roles.find? r.id = some r :=
    SortedMap.find?_insert_self s.roles r.id r
  have hmembers : (s.putRole r).members r.id = [] := by
    show (s.held r.id).toList.filterMap (fun a => s.users.find? a.user) = []
    rw [hs.held_eq_empty hc]
    rfl
  rw [run_listMembers_stored hstored, hmembers]

/-- A role that is put in is read as it was put in, if it carries the count of its members. -/
theorem run_getRole_putRole (hs : s.Sound) (hcount : r.userCount = s.countMembers r.id)
    (m : Moment) :
    ((gateway m.fresh m.now).getRole r.id).run.run (s.putRole r) = (.ok r, s.putRole r) := by
  have hstored : (s.putRole r).roles.find? r.id = some r :=
    SortedMap.find?_insert_self s.roles r.id r
  rw [run_getRole_stored (hs.putRole r) hstored]
  show (Except.ok { r with userCount := s.countMembers r.id }, _) = _
  rw [← hcount]

/-- To put in a role leaves all others as they are, with their members and counts. -/
theorem othersKept_putRole (m : Moment) (hs : s.Sound) (r : Role) :
    OthersKept (gateway m.fresh m.now) r.id s (s.putRole r) :=
  othersKept_of_sameRole m hs (fun _ hne => sameRole_putRole s hne.symm) rfl rfl rfl

/-- A creation that succeeds has put in the role that it answers with. -/
theorem run_createRole_eq_ok {m : Moment} {limits : Limits} {d : RoleDraft}
    (h : ((administrator m limits).createRole d).run.run s = (.ok r, t)) :
    ∃ name, s.created m.fresh m.now (d.normal name) = .ok r ∧ t = s.putRole r := by
  rw [Administrator.run_createRole] at h
  cases hname : NonBlank.ofText? d.name with
  | none => rw [hname] at h; cases h
  | some name =>
    rw [hname] at h
    have h : exec (createRole m.fresh m.now (d.normal name)) s = (.ok r, t) := h
    rw [exec_createRole] at h
    cases hcreated : s.created m.fresh m.now (d.normal name) with
    | error fault => rw [hcreated] at h; cases h
    | ok r' =>
      rw [hcreated] at h
      cases h
      exact ⟨name, hcreated, rfl⟩

/-- What was created can be seen in every reading, and nothing else has changed. -/
theorem creation_of_created (hs : s.Intact) {m : Moment} (hc : s.roles.contains m.fresh = false)
    {d : RoleDraft} {name : NonBlank} (h : s.created m.fresh m.now (d.normal name) = .ok r) :
    r.id = m.fresh ∧ Creation (gateway m.fresh m.now) s d.permissions r (s.putRole r) := by
  obtain ⟨permissions, hp, h⟩ := bind_eq_ok_iff.mp h
  obtain ⟨r', hmade, h⟩ := bind_eq_ok_iff.mp h
  obtain ⟨_, -, h⟩ := bind_eq_ok_iff.mp h
  cases h
  obtain ⟨_, hr⟩ := Role.exists_eq_named hmade
  have hid : r.id = m.fresh := congrArg Role.id hr
  have hnobody : r.userCount = 0 := congrArg Role.userCount hr
  rw [← hid] at hc
  have hcount : s.countMembers r.id = 0 := by
    show UInt32.ofNat (min (UInt32.size - 1) (s.held r.id).size) = 0
    rw [hs.held_eq_empty hc]
    rfl
  have hgranted : Granted s d.permissions r.permissions := by
    rw [hr]
    exact granted_of_resolve hs hp
  exact ⟨hid, {
    custom := congrArg Role.isSystem hr
    nobody := hnobody
    granted := hgranted
    read := run_getRole_putRole hs.toSound (hnobody.trans hcount.symm) m
    members := hs.run_listMembers_putRole hc m
    others := othersKept_putRole m hs.toSound r }⟩

/-! ## Update -/

/-- What shows of a role once it is updated. -/
structure Update (g : Gateway (StateM Store)) (s : Store) (id : RoleId)
    (asked : List PermissionId) (r : Role) (t : Store) (old : Role) (users : List User) : Prop where
  before : (g.getRole id).run.run s = (.ok old, s)
  membersBefore : (g.listMembers id).run.run s = (.ok users, s)
  name : r.name = old.name
  createdAt : r.createdAt = old.createdAt
  custom : r.isSystem = false ∧ old.isSystem = false
  granted : Granted s asked r.permissions
  count : r.userCount.toNat = min (UInt32.size - 1) users.length
  members : (g.listMembers id).run.run t = (.ok users, t)
  read : (g.getRole id).run.run t = (.ok r, t)
  others : OthersKept g id s t

/-- What goes through after the check has gone through. -/
theorem ok_of_guarded {α : Type} {m : Moment} {limits : Limits} {x : Call α} {a : α}
    {change : Attempt (StateM Store) α} (hx : change.run.run = exec x)
    (h : ((administrator m limits).requireMutable id >>= fun _ => change).run.run s = (.ok a, t)) :
    exec x s = (.ok a, t) := by
  rw [Administrator.run_guarded] at h
  have hread : ((administrator m limits).gateway.getRole id).run.run s = _ := exec_getRole id s
  rw [hread] at h
  cases hr : s.role id with
  | error fault => rw [hr] at h; cases h
  | ok r =>
    rw [hr] at h
    dsimp only [Except.map] at h
    split at h
    next => cases h
    next => rwa [hx] at h

/-- An update that succeeds has put in the role that it answers with, but for the count. -/
theorem run_updateRole_eq_ok {m : Moment} {limits : Limits} {e : RoleEdit}
    (h : ((administrator m limits).updateRole id e).run.run s = (.ok r, t)) :
    ∃ r', s.revised m.now id e.normal = .ok r' ∧ r = s.counted r' ∧ t = s.putRole r' := by
  have h : exec (updateRole m.now id e.normal) s = (.ok r, t) := ok_of_guarded rfl h
  rw [exec_updateRole] at h
  cases hr : s.revised m.now id e.normal with
  | error fault => rw [hr] at h; cases h
  | ok r' =>
    rw [hr] at h
    cases h
    exact ⟨r', rfl, rfl, rfl⟩

/-- The role comes back with its members counted, and it is read with the same count. -/
theorem update_of_revised (hs : s.Intact) {m : Moment} {e : RoleEdit}
    (h : s.revised m.now id e.normal = .ok r) :
    (s.counted r).id = id ∧ ∃ old users,
      Update (gateway m.fresh m.now) s id e.permissions (s.counted r) (s.putRole r) old users := by
  obtain ⟨permissions, hp, h⟩ := bind_eq_ok_iff.mp h
  obtain ⟨old, hold, hmade⟩ := bind_eq_ok_iff.mp h
  obtain ⟨hold, hcustom⟩ := mutableRole_eq_ok hold
  have hfound : s.roles.find? id = some old := find?_of_role hold
  have hid : r.id = id := (id_name_of_edited hmade).1.trans (hs.id_of_role hold)
  obtain ⟨_, hr⟩ := Role.exists_eq_named hmade
  have hstored : (s.putRole r).roles.find? id = some r := by
    rw [← hid]
    exact SortedMap.find?_insert_self s.roles r.id r
  have hcreatedAt : r.createdAt = old.createdAt := by
    rw [hr]
    rfl
  have hmadeCustom : r.isSystem = false := custom_of_edited hmade
  have hcounted : s.counted r = { r with userCount := s.countMembers id } := by
    rw [counted, hid]
  have hgranted : Granted s e.permissions r.permissions := by
    rw [hr]
    exact granted_of_resolve hs hp
  rw [hcounted]
  exact ⟨hid, { old with userCount := s.countMembers id }, s.members id, {
    before := run_getRole_stored hs.toSound hfound m
    membersBefore := run_listMembers_stored hfound m
    name := (id_name_of_edited hmade).2
    createdAt := hcreatedAt
    custom := ⟨hmadeCustom, hcustom⟩
    granted := hgranted
    count := toNat_countMembers hs.toSound id
    members := run_listMembers_stored hstored m
    read := run_getRole_stored (hs.toSound.putRole r) hstored m
    others := hid ▸ othersKept_putRole m hs.toSound r }⟩

/-! ## Deletion -/

/-- What shows of a role once it is deleted. -/
structure Deletion (g : Gateway (StateM Store)) (s : Store) (id : RoleId) (t : Store) : Prop where
  read : (g.getRole id).run.run t = (.error (.noRole id), t)
  members : (g.listMembers id).run.run t = (.error (.noRole id), t)
  change : ∀ o, (g.change id o).run.run t = (.error (.noRole id), t)
  /-- A role put in under the id again starts with no members, whatever has been done until then. -/
  anew : ∀ (later : List Invocation) (r : Role) (v : Store), r.id = id →
    (t.undergo later).roles.contains id = false → (t.undergo later).insertRole r = .ok v →
    (g.listMembers id).run.run v = (.ok [], v)
  others : OthersKept g id s t

/-- A deletion that succeeds has taken away the role and its assignments. -/
theorem run_deleteRole_eq_ok {m : Moment} {limits : Limits} {u : Unit}
    (h : ((administrator m limits).deleteRole id).run.run s = (.ok u, t)) :
    t = (s.dropRole id).dropAssignments id := by
  have h : exec (deleteRole id) s = (.ok u, t) := ok_of_guarded rfl h
  rw [exec_deleteRole] at h
  cases hr : s.mutableRole id with
  | error fault => rw [hr] at h; cases h
  | ok _ =>
    rw [hr] at h
    cases h
    rfl

/-- What was deleted is not stored any more. -/
theorem not_contains_delete (s : Store) (id : RoleId) :
    ((s.dropRole id).dropAssignments id).roles.contains id = false := by
  show ((s.roles.erase id).find? id).isSome = false
  rw [SortedMap.find?_erase, if_pos rfl]
  rfl

theorem eq_putRole_of_insertRole (h : s.insertRole r = .ok t) : t = s.putRole r := by
  unfold insertRole at h
  cases hfree : s.ensureUniqueName r.name (some r.id) with
  | error fault => rw [hfree] at h; cases h
  | ok u => rw [hfree] at h; cases h; rfl

/-- What was deleted can be seen in no reading, and nothing else has changed. -/
theorem deletion_delete (hs : s.Intact) (m : Moment) (id : RoleId) :
    Deletion (gateway m.fresh m.now) s id ((s.dropRole id).dropAssignments id) where
  read := by
    refine (exec_getRole id _).trans ?_
    rw [role_eq_error (not_contains_delete s id)]
    rfl
  members := by
    refine (exec_listMembers id _).trans ?_
    rw [not_contains_delete]
    rfl
  change o := by
    refine (exec_change id o _).trans ?_
    rw [refusal?, not_contains_delete]
    rfl
  anew later r v hr hlater hv := by
    subst hr
    rw [eq_putRole_of_insertRole hv]
    exact ((hs.delete r.id).undergo later).run_listMembers_putRole hlater m
  others :=
    othersKept_of_sameRole m hs.toSound (fun _ hne => sameRole_delete s hne.symm) rfl rfl rfl

/-- **Reads see writes, and nothing else moves.** On a store left by any run of invocations: a role
that is created, where its id is not in use, is custom, has the permissions asked for and no
members; a role that is updated keeps its name, its time of creation and its members, which are
counted anew, and has the permissions asked for and no others. Either is read as it was answered. A
role that is deleted is found by no call, and one put in later in its place starts with no members.
All other roles, all users and all permissions stay as they are. -/
theorem reads_see_writes (history : List Invocation) (m : Moment) (limits : Limits) :
    let s := empty.undergo history
    let a := administrator m limits
    (s.roles.contains m.fresh = false →
      ∀ (d : RoleDraft) (r : Role) (t : Store), (a.createRole d).run.run s = (.ok r, t) →
        r.id = m.fresh ∧ Creation a.gateway s d.permissions r t) ∧
    (∀ (id : RoleId) (e : RoleEdit) (r : Role) (t : Store),
      (a.updateRole id e).run.run s = (.ok r, t) →
        r.id = id ∧ ∃ old users, Update a.gateway s id e.permissions r t old users) ∧
    ∀ (id : RoleId) (t : Store), (a.deleteRole id).run.run s = (.ok (), t) →
      (Fault.noRole id).kind = .notFound ∧ Deletion a.gateway s id t := by
  intro s a
  have hs : s.Intact := intact_undergo history
  refine ⟨fun hfree d r t h => ?_, fun id e r t h => ?_, fun id t h => ⟨rfl, ?_⟩⟩
  · obtain ⟨name, hcreated, rfl⟩ := run_createRole_eq_ok h
    exact creation_of_created hs hfree hcreated
  · obtain ⟨r', hrevised, rfl, rfl⟩ := run_updateRole_eq_ok h
    exact update_of_revised hs hrevised
  · rw [run_deleteRole_eq_ok h]
    exact deletion_delete hs m id

/-- To read pages. -/
def reading : Permission := ⟨⟨⟨3, by decide⟩⟩, ⟨"page", by decide, by decide⟩, .read, ""⟩

/-- A permission, a role, and a user who holds it. -/
def staffed : List Invocation :=
  [.act (.insertPermission reading), .act (.insertRole (editors false 0)), .act (.insertUser ada),
    .act (.call someMoment (.change editorsId (.assign ada.id)))]

/-- A role for those who read, asked for twice. -/
def readers : RoleDraft := { name := "Readers", permissions := [reading.id, reading.id] }

/-- A role is created, or the one there is updated, or deleted and put in again. -/
theorem reads_see_writes_staffed :
    let s := empty.undergo staffed
    let a := administrator someMoment {}
    s.roles.contains someMoment.fresh = false ∧
    (∃ r t, (a.createRole readers).run.run s = (.ok r, t) ∧
      r.userCount = 0 ∧ (a.gateway.getRole r.id).run.run t = (.ok r, t)) ∧
    (∃ r t, (a.updateRole editorsId { permissions := [reading.id] }).run.run s = (.ok r, t) ∧
      (a.gateway.getRole editorsId).run.run t = (.ok r, t)) ∧
    ∃ t v, (a.deleteRole editorsId).run.run s = (.ok (), t) ∧
      (a.gateway.getRole editorsId).run.run t = (.error (.noRole editorsId), t) ∧
      t.insertRole (editors false 0) = .ok v ∧
      (a.gateway.listMembers editorsId).run.run v = (.ok [], v) := by
  -- the runs are computed on closed terms, before anything is named
  have hcreation : ∃ r t, ((administrator someMoment {}).createRole readers).run.run
      (empty.undergo staffed) = (.ok r, t) := ⟨_, _, rfl⟩
  have hchange : ∃ r t, ((administrator someMoment {}).updateRole editorsId
      { permissions := [reading.id] }).run.run (empty.undergo staffed) = (.ok r, t) := ⟨_, _, rfl⟩
  have hdeletion : ∃ t v, ((administrator someMoment {}).deleteRole editorsId).run.run
      (empty.undergo staffed) = (.ok (), t) ∧ t.roles.contains editorsId = false ∧
      t.insertRole (editors false 0) = .ok v := ⟨_, _, rfl, rfl, rfl⟩
  obtain ⟨r, t, hcreation⟩ := hcreation
  obtain ⟨r', t', hchange⟩ := hchange
  obtain ⟨u, v, hdeletion, hgone, hagain⟩ := hdeletion
  obtain ⟨hcreate, hupdate, hdelete⟩ := reads_see_writes staffed someMoment {}
  obtain ⟨-, hcreated⟩ := hcreate rfl readers r t hcreation
  obtain ⟨-, _, _, hupdated⟩ := hupdate editorsId _ r' t' hchange
  obtain ⟨-, hdeleted⟩ := hdelete editorsId u hdeletion
  intro s a
  exact ⟨rfl, ⟨r, t, hcreation, hcreated.nobody, hcreated.read⟩, ⟨r', t', hchange, hupdated.read⟩,
    u, v, hdeletion, hdeleted.read, hagain, hdeleted.anew [] _ v rfl hgone hagain⟩

end Rolebook.Store
