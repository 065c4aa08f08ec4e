import Rolebook.Proofs.Administrator.Roles
import Rolebook.Proofs.Store.Names
import Rolebook.Proofs.Store.Integrity
import Rolebook.Proofs.Uuid.Spelling

/-!
# Roles by reference

A command refers to a role by a text, and the text is read as an id before it is looked up as a
name. No two stored roles go by the same letters, so a text that does not read as an id refers to
one role at most (`NamesApart.oneNamed`). But nothing keeps a role from having a name that reads
as an id, and to such a name the id has the first claim: it refers to whatever is stored under the
id. `names_refer` says when a name refers to its own role, and `names_refer_not_always` shows a name
that refers to another.
-/

namespace Rolebook

/-! ## Commands that refer to a role -/

/-- What can be done with a role that a command refers to. -/
inductive RoleCommand where
  | members
  | sync (dryRun : Bool) (users : List UserId)
  | delete

namespace RoleCommand

/-- The command that does it with the role referred to. -/
def on (reference : String) : RoleCommand → Command
  | .members => .members reference
  | .sync dryRun users => .sync reference dryRun users
  | .delete => .deleteRole reference

variable {m : Type → Type} [Monad m]

/-- What is done with the role once it is found. -/
def act (a : Administrator m) (r : Role) : RoleCommand → Attempt m Output
  | .members => do return .succeeded ((← a.members r.id).map Output.memberLine)
  | .sync true users => do return .succeeded (Output.planLines r (← a.planMembers r.id users))
  | .sync false users => Command.replaceMembers a r users
  | .delete => do
    a.deleteRole r.id
    return .succeeded [Output.roleChangeLine "deleted" r]

/-- A command on a role finds the role and then acts on it. -/
theorem run_on (a : Administrator m) (reference : String) (c : RoleCommand) :
    (c.on reference).run a = a.findRole reference >>= fun r => c.act a r := by
  cases c with
  | members | delete => rfl
  | sync dryRun users => cases dryRun <;> rfl

end RoleCommand

namespace Store

variable {s t : Store} {id : RoleId} {r : Role} {m : Moment} {limits : Limits} {reference : String}

/-! ## Finding a role -/

/-- A reference that reads as an id is looked up as one; any other is a name. -/
theorem run_findRole (m : Moment) (limits : Limits) (reference : String) (s : Store) :
    ((administrator m limits).findRole reference).run.run s =
      match (Id.read reference : Except Fault RoleId) with
      | .ok id => ((s.role id).map s.counted, s)
      | .error _ =>
        (Administrator.roleNamed (Text.trim reference) (s.roles.values.map s.counted), s) := by
  have hread : ∀ id, ((administrator m limits).gateway.getRole id).run.run s = _ :=
    fun id => exec_getRole id s
  have hlist : (administrator m limits).gateway.listRoles.run.run s = _ := exec_listRoles s
  rw [Administrator.run_findRole, hlist]
  cases (Id.read reference : Except Fault RoleId) with
  | ok id => exact hread id
  | error fault => rfl

/-- A stored role is found under its own id. -/
theorem find?_own (hs : s.Sound) (h : s.roles.find? id = some r) :
    s.roles.find? r.id = some r := by
  rw [hs.roleKeyed h, h]

/-- A listing has the stored roles, each with the count of its members. -/
theorem mem_listing_iff (hs : s.Sound) {r : Role} :
    r ∈ s.roles.values.map s.counted ↔
      ∃ id stored, s.roles.find? id = some stored ∧
        r = { stored with userCount := s.countMembers id } := by
  constructor
  · intro hr
    obtain ⟨stored, hmem, rfl⟩ := List.mem_map.mp hr
    obtain ⟨id, hid⟩ := (SortedMap.mem_values_iff s.roles stored).mp hmem
    refine ⟨id, stored, hid, ?_⟩
    rw [← hs.roleKeyed hid]
    rfl
  · rintro ⟨id, stored, hid, rfl⟩
    rw [← hs.roleKeyed hid]
    exact counted_mem_values hid

/-- Stored roles that go by one name are stored under one id. -/
theorem NamesApart.eq_of_named (h : s.NamesApart) {name : String} {id id' : RoleId} {r r' : Role}
    (hr : s.roles.find? id = some r) (hr' : s.roles.find? id' = some r')
    (hgoes : Text.sameLetters r.name.text name = true)
    (hgoes' : Text.sameLetters r'.name.text name = true) : id = id' := by
  have hlower := (Text.sameLetters_iff _ _).mp hgoes
  have hlower' := (Text.sameLetters_iff _ _).mp hgoes'
  exact h.apart hr hr' (hlower.trans hlower'.symm)

/-- At most one listed role goes by a name. -/
theorem NamesApart.oneNamed (h : s.NamesApart) (name : String) :
    Administrator.OneNamed name (s.roles.values.map s.counted) := by
  intro r hr r' hr' hgoes hgoes'
  obtain ⟨id, stored, hid, rfl⟩ := (mem_listing_iff h.toSound).mp hr
  obtain ⟨id', stored', hid', rfl⟩ := (mem_listing_iff h.toSound).mp hr'
  obtain rfl := h.eq_of_named hid hid' hgoes hgoes'
  rw [hid] at hid'
  cases hid'
  rfl

/-- A role that is found is stored, and comes with its members counted. -/
theorem stored_of_findRole (hs : s.Sound)
    (h : ((administrator m limits).findRole reference).run.run s = (.ok r, t)) :
    t = s ∧ ∃ stored, s.roles.find? r.id = some stored ∧ r = s.counted stored := by
  rw [run_findRole] at h
  cases hid : (Id.read reference : Except Fault RoleId) with
  | ok id =>
    rw [hid] at h
    dsimp only at h
    cases hr : s.role id with
    | error fault => rw [hr] at h; cases h
    | ok stored =>
      rw [hr] at h
      cases h
      exact ⟨rfl, stored, find?_own hs (find?_of_role hr), rfl⟩
  | error fault =>
    rw [hid] at h
    obtain ⟨hfound, rfl⟩ := Prod.mk.inj h
    obtain ⟨hlisted, -⟩ := Administrator.goes_of_roleNamed hfound
    obtain ⟨stored, hmem, rfl⟩ := List.mem_map.mp hlisted
    obtain ⟨id, hstored⟩ := (SortedMap.mem_values_iff s.roles stored).mp hmem
    exact ⟨rfl, stored, find?_own hs hstored, rfl⟩

/-- A stored role's name finds that role. -/
theorem NamesApart.roleNamed_eq (h : s.NamesApart) (hr : s.roles.find? id = some r) {name : String}
    (hname : Text.lower name = Text.lower r.name.text) :
    Administrator.roleNamed name (s.roles.values.map s.counted) = .ok (s.counted r) := by
  refine (Administrator.roleNamed_eq_ok_iff (h.oneNamed name)).mpr ⟨counted_mem_values hr, ?_⟩
  exact (Text.sameLetters_iff _ _).mpr hname.symm

/-- A text with the letters of a name reads as the same id as the name, if as any. -/
theorem read_eq_of_lower {name : NonBlank} {k : RoleId}
    (h : Text.lower (Text.trim reference) = Text.lower name.text) :
    (Id.read reference : Except Fault RoleId) = .ok k ↔ Id.read name.text = .ok k := by
  have hname : Text.lower (Text.trim reference) = Text.lower (Text.trim name.text) := by
    rw [name.trimmed, h]
  exact ⟨Id.read_eq_ok_of_lower hname, Id.read_eq_ok_of_lower hname.symm⟩

/-- A name that does not read as the id of anything else refers to its role. -/
theorem NamesApart.run_findRole (h : s.NamesApart) (hr : s.roles.find? id = some r)
    (hname : Text.lower (Text.trim reference) = Text.lower r.name.text)
    (hid : ∀ k : RoleId, Id.read r.name.text = .ok k → k = id) (m : Moment) (limits : Limits) :
    ((administrator m limits).findRole reference).run.run s = (.ok (s.counted r), s) := by
  rw [Store.run_findRole]
  cases hk : (Id.read reference : Except Fault RoleId) with
  | ok k =>
    rw [hid k ((read_eq_of_lower hname).mp hk)]
    dsimp only
    rw [role_of_find? hr]
    rfl
  | error fault =>
    dsimp only
    rw [h.roleNamed_eq hr hname]

/-- **A name refers to its role, unless it reads as an id.** Take any stored role of a store left by
any run of invocations, and its name in any letter case and with any white space around it. If the
name reads as an id, it is looked up as that id and no other way. If it does not, or reads as the id
of the role itself, it finds the role, and what a command does with the role that the name refers
to, it does with this one, as it would for the id written out. -/
theorem names_refer (history : List Invocation) (m : Moment) (limits : Limits) :
    let s := empty.undergo history
    let a := administrator m limits
    ∀ (id : RoleId) (r : Role), s.roles.find? id = some r →
    ∀ reference : String, Text.sameLetters (Text.trim reference) r.name.text = true →
      (∀ k : RoleId, (Id.read r.name.text : Except Fault RoleId) = .ok k →
        (a.findRole reference).run.run s = (a.gateway.getRole k).run.run s) ∧
      ((∀ k : RoleId, (Id.read r.name.text : Except Fault RoleId) = .ok k → k = id) →
        let found := { r with userCount := s.countMembers id }
        (a.gateway.getRole id).run.run s = (.ok found, s) ∧
        (a.findRole reference).run.run s = (.ok found, s) ∧
        ∀ c : RoleCommand,
          ((c.on reference).run a).run.run s = (c.act a found).run.run s ∧
          ((c.on id.text).run a).run.run s = (c.act a found).run.run s) := by
  intro s a id r hr reference hname
  have hs : s.NamesApart := namesApart_undergo history
  have hlower := (Text.sameLetters_iff _ _).mp hname
  refine ⟨fun k hk => ?_, fun hid => ?_⟩
  · have hread : (a.gateway.getRole k).run.run s = _ := exec_getRole k s
    rw [run_findRole, (read_eq_of_lower hlower).mpr hk, hread]
  · intro found
    have hcounted : s.counted r = found :=
      congrArg (fun k => { r with userCount := s.countMembers k }) (hs.roleKeyed hr)
    have hnamed : (a.findRole reference).run.run s = (.ok found, s) := by
      rw [hs.run_findRole hr hlower hid, hcounted]
    have hspelled : (a.findRole id.text).run.run s = (.ok found, s) := by
      rw [run_findRole, Id.read_text, ← hcounted]
      dsimp only
      rw [role_of_find? hr]
      rfl
    refine ⟨run_getRole_stored hs.toSound hr m, hnamed, fun c => ⟨?_, ?_⟩⟩
    · rw [RoleCommand.run_on, Administrator.run_attempt_bind, hnamed]
    · rw [RoleCommand.run_on, Administrator.run_attempt_bind, hspelled]

/-- A role, and another that has the id of the first for its name. -/
def namesake : List Invocation :=
  [.act (.insertRole (editors false 0)),
    .act (.insertRole { editors false 0 with
      id := someMoment.fresh
      name := ⟨editorsId.text, Uuid.trim_text _, by decide⟩ })]

theorem plain_editors (k : RoleId)
    (hk : (Id.read (editors false 0).name.text : Except Fault RoleId) = .ok k) : k = editorsId := by
  cases hk

/-- A name that does not read as an id refers to its role. -/
theorem names_refer_plain :
    let s := empty.undergo namesake
    ∃ r, s.roles.find? editorsId = some r ∧
      Text.sameLetters (Text.trim " eDITORS ") r.name.text = true ∧
      (∀ k : RoleId, (Id.read r.name.text : Except Fault RoleId) = .ok k → k = editorsId) ∧
      ((administrator someMoment {}).findRole " eDITORS ").run.run s
        = (.ok { r with userCount := s.countMembers editorsId }, s) := by
  intro s
  obtain ⟨-, hrefers⟩ := names_refer namesake someMoment {} editorsId _ rfl " eDITORS " (by decide)
  obtain ⟨-, hfound, -⟩ := hrefers plain_editors
  exact ⟨_, rfl, by decide, plain_editors, hfound⟩

/-- A name that reads as the id of another role refers to that role, and a command that is to
delete the role of that name deletes the other. -/
theorem names_refer_not_always :
    let s := empty.undergo namesake
    let a := administrator someMoment {}
    ∃ r r', s.roles.find? someMoment.fresh = some r ∧ s.roles.find? editorsId = some r' ∧
      r.id ≠ r'.id ∧ (a.findRole r.name.text).run.run s = (.ok r', s) ∧
      ∃ output t, ((Command.deleteRole r.name.text).run a).run.run s = (.ok output, t) ∧
        t.roles.contains r.id = true ∧ t.roles.contains r'.id = false := by
  have hfound : ((administrator someMoment {}).findRole editorsId.text).run.run
      (empty.undergo namesake) = (.ok (editors false 0), empty.undergo namesake) := by
    rw [run_findRole, Id.read_text]
    rfl
  have hdeleted : ∃ output t, ((RoleCommand.delete.act (administrator someMoment {})
      (editors false 0)).run.run (empty.undergo namesake)) = (.ok output, t) ∧
      t.roles.contains someMoment.fresh = true ∧ t.roles.contains editorsId = false :=
    ⟨_, _, rfl, rfl, rfl⟩
  obtain ⟨output, t, hrun, hkept, hgone⟩ := hdeleted
  intro s a
  refine ⟨_, _, rfl, rfl, by decide, hfound, output, t, ?_, hkept, hgone⟩
  show ((RoleCommand.delete.on editorsId.text).run a).run.run s = _
  rw [RoleCommand.run_on, Administrator.run_attempt_bind, hfound]
  exact hrun

end Store

end Rolebook
