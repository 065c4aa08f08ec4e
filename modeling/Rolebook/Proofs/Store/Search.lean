import Rolebook.Proofs.Store.Reference
import Rolebook.Proofs.Uuid.Forms

/-!
# Finding a role

A text finds a role in one of two ways, and which one depends on the text alone. If it spells an id,
the role is read under that id. If not, the first role that goes by the name is picked from a
listing, and "the first" is a definite answer because there is one at most (`NamesApart.oneNamed`).
`find_role_exact` puts both together.
-/

namespace Rolebook

/-- A text that spells no id is not read as one. -/
theorem Id.exists_read_eq_error {kind : IdKind} {s : String}
    (h : ∀ a : Id kind, ¬ a.uuid.Spells (Text.trim s).toList) :
    ∃ fault, (Id.read s : Except Fault (Id kind)) = .error fault := by
  cases hread : (Id.read s : Except Fault (Id kind)) with
  | ok a => exact absurd (Id.read_eq_ok_iff_spells.mp hread) (h a)
  | error fault => exact ⟨fault, rfl⟩

namespace Store

open Administrator (OneNamed roleNamed)

variable {s : Store} {m : Moment} {limits : Limits}

/-- A reading by id shows the role stored under it, or says that there is none. -/
theorem run_getRole (hs : s.Sound) (m : Moment) (id : RoleId) :
    ((gateway m.fresh m.now).getRole id).run.run s =
      match s.roles.find? id with
      | some r => (.ok { r with userCount := s.countMembers id }, s)
      | none => (.error (.noRole id), s) := by
  cases hid : s.roles.find? id with
  | some r => exact run_getRole_stored hs hid m
  | none =>
    have hread : ((gateway m.fresh m.now).getRole id).run.run s = _ := exec_getRole id s
    rw [hread, role, hid]
    rfl

/-- **A text finds the role that it refers to, and nothing else.** Take a store left by any run of
invocations, and any text. If the text spells an id, white space around it aside, finding a role by
it is reading the role with this id: the one stored under it with its members counted, or none. If
not, a role is found just if it is stored and goes by the text, letter case and white space around
it aside. There is one such role at most, so it is found in whatever order a backend lists the
roles; and where there is none, none is found. -/
theorem find_role_exact (history : List Invocation) (m : Moment) (limits : Limits)
    (reference : String) :
    let s := empty.undergo history
    let a := administrator m limits
    let name := Text.trim reference
    (∀ id : RoleId, id.uuid.Spells name.toList →
      (a.findRole reference).run.run s = (a.gateway.getRole id).run.run s ∧
      (a.gateway.getRole id).run.run s =
        match s.roles.find? id with
        | some r => (.ok { r with userCount := s.countMembers id }, s)
        | none => (.error (.noRole id), s)) ∧
    ((∀ id : RoleId, ¬ id.uuid.Spells name.toList) →
      (∀ (r : Role) (t : Store), (a.findRole reference).run.run s = (.ok r, t) ↔
        t = s ∧ ∃ id stored, s.roles.find? id = some stored ∧
          Text.sameLetters stored.name.text name = true ∧
          r = { stored with userCount := s.countMembers id }) ∧
      (∀ (id id' : RoleId) (r r' : Role), s.roles.find? id = some r → s.roles.find? id' = some r' →
        Text.sameLetters r.name.text name = true → Text.sameLetters r'.name.text name = true →
        id = id') ∧
      (∀ (g : Gateway (StateM Store)) (listed : List Role),
        g.listRoles.run.run s = (.ok listed, s) → listed.Perm (s.roles.values.map s.counted) →
        (Administrator.findRole ⟨g, limits⟩ reference).run.run s
          = (a.findRole reference).run.run s) ∧
      ((∀ (id : RoleId) (r : Role), s.roles.find? id = some r →
          Text.sameLetters r.name.text name = false) →
        (a.findRole reference).run.run s = (.error (.noRoleNamed name), s))) ∧
    (∀ id, (Fault.noRole id).kind = .notFound) ∧ (Fault.noRoleNamed name).kind = .notFound := by
  intro s a name
  have hs : s.NamesApart := namesApart_undergo history
  refine ⟨fun id hid => ?_, fun hnone => ?_, fun _ => rfl, rfl⟩
  · have hread : (Id.read reference : Except Fault RoleId) = .ok id :=
      Id.read_eq_ok_iff_spells.mpr hid
    refine ⟨?_, run_getRole hs.toSound m id⟩
    rw [Administrator.run_findRole, hread]
  · obtain ⟨fault, hread⟩ := Id.exists_read_eq_error hnone
    have hfound : (a.findRole reference).run.run s
        = (roleNamed name (s.roles.values.map s.counted), s) := by
      rw [run_findRole, hread]
    have hone : OneNamed name (s.roles.values.map s.counted) := hs.oneNamed name
    refine ⟨fun r t => ?_, ?_, fun g listed hlisted hperm => ?_, fun hnobody => ?_⟩
    · rw [hfound, Prod.mk.injEq, Administrator.roleNamed_eq_ok_iff hone, mem_listing_iff hs.toSound]
      constructor
      · rintro ⟨⟨⟨id, stored, hid, rfl⟩, hgoes⟩, rfl⟩
        exact ⟨rfl, id, stored, hid, hgoes, rfl⟩
      · rintro ⟨rfl, id, stored, hid, hgoes, rfl⟩
        exact ⟨⟨⟨id, stored, hid, rfl⟩, hgoes⟩, rfl⟩
    · intro id id' r r' hr hr' hgoes hgoes'
      exact hs.eq_of_named hr hr' hgoes hgoes'
    · rw [hfound, Administrator.run_findRole, hread]
      dsimp only
      rw [hlisted, ← Administrator.roleNamed_perm hone hperm]
    · rw [hfound, Administrator.roleNamed_eq_error]
      intro r hr
      obtain ⟨id, stored, hid, rfl⟩ := (mem_listing_iff hs.toSound).mp hr
      exact hnobody id stored hid

/-- A role is found by its id in braces and by its name in other letters; a name that nobody has
finds none. -/
theorem find_role_exact_editors :
    let s := empty.undergo namesake
    let a := administrator someMoment {}
    editorsId.uuid.Spells (Text.trim " {00000000-0000-0000-0000-000000000007} ").toList ∧
    (a.findRole " {00000000-0000-0000-0000-000000000007} ").run.run s
      = (.ok (editors false 0), s) ∧
    (∀ id : RoleId, ¬ id.uuid.Spells (Text.trim " eDITORS ").toList) ∧
    (a.findRole " eDITORS ").run.run s = (.ok (editors false 0), s) ∧
    (∀ id : RoleId, ¬ id.uuid.Spells (Text.trim "Writers").toList) ∧
    (a.findRole "Writers").run.run s = (.error (.noRoleNamed "Writers"), s) := by
  intro s a
  have hspelt : editorsId.uuid.Spells
      (Text.trim " {00000000-0000-0000-0000-000000000007} ").toList :=
    Uuid.ofChars?_eq_some_iff.mp (by decide)
  have hunspelt : ∀ name : String, Uuid.ofChars? (Text.trim name).toList = none →
      ∀ id : RoleId, ¬ id.uuid.Spells (Text.trim name).toList := by
    intro name hname id hid
    rw [← Uuid.ofChars?_eq_some_iff, hname] at hid
    cases hid
  have heditors := hunspelt " eDITORS " (by decide)
  have hwriters := hunspelt "Writers" (by decide)
  refine ⟨hspelt, ?_, heditors, ?_, hwriters, ?_⟩
  · obtain ⟨hfound, hread⟩ := (find_role_exact namesake someMoment {} _).1 editorsId hspelt
    exact hfound.trans hread
  · obtain ⟨hfound, -⟩ := (find_role_exact namesake someMoment {} " eDITORS ").2.1 heditors
    exact (hfound _ _).mpr ⟨rfl, editorsId, _, rfl, by decide, rfl⟩
  · obtain ⟨-, -, -, hnobody⟩ := (find_role_exact namesake someMoment {} "Writers").2.1 hwriters
    refine hnobody fun id r hr => ?_
    have hmem : r ∈ s.roles.values := (SortedMap.mem_values_iff s.roles r).mpr ⟨id, hr⟩
    have hothers : ∀ r ∈ (empty.undergo namesake).roles.values,
        Text.sameLetters r.name.text (Text.trim "Writers") = false := by decide
    exact hothers r hmem

end Store

end Rolebook
