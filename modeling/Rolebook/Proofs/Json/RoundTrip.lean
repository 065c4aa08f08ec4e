import Rolebook.Proofs.Instant.Text
import Rolebook.Proofs.Json.Respelled
import Rolebook.Proofs.Permission.Key
import Rolebook.Proofs.Role.Normal
import Rolebook.Proofs.Uuid.Spelling
import Rolebook.Role.Json
import Rolebook.User

/-!
# What is written in JSON comes back

A role is written field by field and read as an input that is then made a role. Each field is read
back from what is written for it, the order of the fields does not matter, and an input that a role
was taken apart into makes that role again. So nothing is lost on the way (`json_comes_back`) but
what the text of an instant cannot tell: a leap second inside a minute is read as the second after
it (`Role.asWritten`, `leap_second_moves`). No role that was read has such an instant
(`Role.asWritten_of_ofJson?`), so to decode is to bring a value into the form in which it would be
written.

The lemmas on records leave open which names the fields may go by, as long as the reader knows them
all: payloads are read by the same rules, with more names.
-/

namespace Rolebook

open Json (Aliases Covers Respelled)

/-! ## Fields -/

namespace Json

/-- A value other than `null` is there. -/
theorem optionally_of_ne_null {α : Type} {decode : Json → Option α} {v : Json} (h : v ≠ .null) :
    optionally decode (some v) = (decode v).map some := by
  unfold optionally
  split
  next heq => exact absurd (Option.some.inj heq) h
  next heq => cases heq; rfl
  next heq => cases heq

/-- What may be missing comes back, or stays missing, if no value is written as `null`. -/
theorem optionally_optional {α β : Type} {encode : α → Json} {decode : Json → Option β} {f : α → β}
    (hnull : ∀ a, encode a ≠ .null) (h : ∀ a, decode (encode a) = some (f a)) (o : Option α) :
    optionally decode (some (optional encode o)) = some (o.map f) := by
  cases o with
  | none => rfl
  | some a => rw [optional, optionally_of_ne_null (hnull a), h]; rfl

/-- What a field that may be missing has is read from a value that is there. -/
theorem exists_of_optionally {α : Type} {decode : Json → Option α} {field : Option Json} {a : α}
    (h : optionally decode field = some (some a)) : ∃ v, field = some v ∧ decode v = some a := by
  unfold optionally at h
  split at h
  next => cases h
  next v _ =>
    obtain ⟨_, hv, ha⟩ := Option.map_eq_some_iff.mp h
    cases ha
    exact ⟨v, rfl, hv⟩
  next => cases h

theorem isLeaf_optional {α : Type} {encode : α → Json} (h : ∀ a, (encode a).IsLeaf) (o : Option α) :
    (optional encode o).IsLeaf := by
  cases o with
  | none => trivial
  | some a => exact h a

theorem text?_ofText (s : String) : text? (ofText s) = some s := rfl

theorem ofText_ne_null (s : String) : ofText s ≠ null := nofun

/-- A count of 32 bits fits into the number it is written as. -/
theorem uint32?_ofNat (n : UInt32) : uint32? (ofNat n.toNat) = some n := by
  show (if n.toNat < UInt32.size then some (UInt32.ofNat n.toNat) else none) = _
  rw [if_pos n.toNat_lt_size, UInt32.ofNat_toNat]

end Json

/-- An id comes back. -/
theorem Id.ofJson?_toJson {kind : IdKind} (a : Id kind) : Id.ofJson? a.toJson = some a := by
  rw [ofJson?, toJson, Json.text?_ofText, Option.bind_some, ofExactText?, Uuid.read?, text,
    Uuid.toList_text, Uuid.ofChars?_chars, Option.map_some]

/-- A text that is not blank comes back: there is nothing to take off it. -/
theorem NonBlank.ofJson?_toJson (a : NonBlank) : NonBlank.ofJson? a.toJson = some a := by
  rw [ofJson?, toJson, Json.text?_ofText, Option.bind_some, ofText?_text]

theorem NonBlank.text?_toJson (a : NonBlank) : a.toJson.text? = some a.text := rfl

theorem NonBlank.toJson_ne_null (a : NonBlank) : a.toJson ≠ .null := Json.ofText_ne_null _

theorem Instant.toJson_ne_null (t : Instant) : t.toJson ≠ .null := Json.ofText_ne_null _

/-- An instant comes back as it was written. -/
theorem Instant.ofJson?_toJson (t : Instant) : Instant.ofJson? t.toJson = some t.asWritten := by
  rw [ofJson?, toJson, Json.text?_ofText, Option.bind_some, read?_text]

/-- No leap second is read inside a minute. -/
theorem Instant.endsMinute_of_ofJson? {v : Json} {t : Instant} (h : Instant.ofJson? v = some t) :
    t.EndsMinute := by
  obtain ⟨_, -, hread⟩ := Option.bind_eq_some_iff.mp h
  exact endsMinute_of_read? hread

theorem Action.ofJson?_toJson (a : Action) : Action.ofJson? a.toJson = some a :=
  a.ofWord?_word

theorem Category.ofJson?_toJson (c : Category) : Category.ofJson? c.toJson = some c :=
  ofJson?_eq_some_iff.mpr ⟨c.text, rfl, c.ofText_text⟩

/-! ## Instants in a role -/

/-- A role with its instants as their texts tell them. -/
def Role.asWritten (r : Role) : Role :=
  { r with
    createdAt := r.createdAt.map Instant.asWritten
    updatedAt := r.updatedAt.map Instant.asWritten }

/-- A role is told in full just if it has no leap second inside a minute. -/
theorem Role.asWritten_eq_self_iff {r : Role} : r.asWritten = r ↔
    ∀ t : Instant, r.createdAt = some t ∨ r.updatedAt = some t → t.EndsMinute := by
  have hmap : ∀ o : Option Instant,
      o.map Instant.asWritten = o ↔ ∀ t, o = some t → t.EndsMinute := by
    intro o
    cases o with
    | none => exact ⟨fun _ _ => nofun, fun _ => rfl⟩
    | some t => simp [Instant.asWritten_eq_self_iff]
  simp only [or_imp, forall_and, ← hmap]
  constructor
  · intro h
    exact ⟨congrArg Role.createdAt h, congrArg Role.updatedAt h⟩
  · intro ⟨hcreated, hupdated⟩
    rw [asWritten, hcreated, hupdated]

/-! ## Records -/

section Records

variable {aliases : Aliases} {v : Json}

/-- The fields of a permission are found in any spelling of it that the field names allow for. -/
theorem Permission.slots?_respelled {fields : List Json.Field} {p : Permission}
    (hcovers : Covers aliases fields ["permission_id", "resource", "action", "description"])
    (h : Respelled aliases p.toJson v) :
    Json.slots? fields v = some [some p.id.toJson, some p.resource.toJson, some p.action.toJson,
      some (.ofText p.description)] := by
  obtain ⟨values, hslots, hvalues⟩ := Json.slots?_of_respelled hcovers h
  simp only [List.map_cons, List.map_nil, List.forall₂_cons_left_iff,
    List.forall₂_nil_left_iff] at hvalues
  obtain ⟨_, _, hid, ⟨_, _, hresource, ⟨_, _, haction, ⟨_, _, hdescription, rfl, rfl⟩, rfl⟩, rfl⟩,
    rfl⟩ := hvalues
  rw [hslots, hid.eq_of_leaf (Json.isLeaf_ofText _), hresource.eq_of_leaf (Json.isLeaf_ofText _),
    haction.eq_of_leaf (Json.isLeaf_ofText _), hdescription.eq_of_leaf (Json.isLeaf_ofText _)]
  rfl

/-- A user is read from any spelling that the field names allow for. -/
theorem User.ofJsonWith?_respelled {idNames : Json.Field} {u : User}
    (hcovers : Covers aliases [idNames, ["username"], ["display_name"], ["email"]]
      ["user_id", "username", "display_name", "email"])
    (h : Respelled aliases u.toJson v) : ofJsonWith? idNames v = some u := by
  obtain ⟨values, hslots, hvalues⟩ := Json.slots?_of_respelled hcovers h
  simp only [List.map_cons, List.map_nil, List.forall₂_cons_left_iff,
    List.forall₂_nil_left_iff] at hvalues
  obtain ⟨_, _, hid, ⟨_, _, husername, ⟨_, _, hdisplay, ⟨_, _, hemail, rfl, rfl⟩, rfl⟩, rfl⟩,
    rfl⟩ := hvalues
  rw [ofJsonWith?, hslots, hid.eq_of_leaf (Json.isLeaf_ofText _),
    husername.eq_of_leaf (Json.isLeaf_ofText _),
    hdisplay.eq_of_leaf (Json.isLeaf_optional Json.isLeaf_ofText _),
    hemail.eq_of_leaf (Json.isLeaf_optional Json.isLeaf_ofText _)]
  simp only [List.map_cons, List.map_nil, Json.required, Id.ofJson?_toJson, Json.text?_ofText,
    Json.optionally_optional Json.ofText_ne_null Json.text?_ofText]
  simp

/-- What is read from a role is what the role is made from. -/
theorem RoleInput.ofJsonWith?_respelled {idNames : Json.Field} {permission : Json → Option Permission}
    {r : Role}
    (hcovers : Covers aliases [idNames, ["name"], ["display_name"], ["description"], ["is_system"],
      ["permissions"], ["user_count"], ["created_at"], ["updated_at"]]
      ["role_id", "name", "display_name", "description", "is_system", "permissions", "user_count",
        "created_at", "updated_at"])
    (hpermission : ∀ (p : Permission) (v : Json), Respelled aliases p.toJson v →
      permission v = some p)
    (h : Respelled aliases r.toJson v) :
    ofJsonWith? idNames permission v = some r.asWritten.toInput := by
  obtain ⟨values, hslots, hvalues⟩ := Json.slots?_of_respelled hcovers h
  simp only [List.map_cons, List.map_nil, List.forall₂_cons_left_iff,
    List.forall₂_nil_left_iff] at hvalues
  obtain ⟨_, _, hid, ⟨_, _, hname, ⟨_, _, hdisplay, ⟨_, _, hdescription, ⟨_, _, hsystem,
    ⟨_, _, hpermissions, ⟨_, _, hcount, ⟨_, _, hcreated, ⟨_, _, hupdated, rfl, rfl⟩, rfl⟩, rfl⟩,
    rfl⟩, rfl⟩, rfl⟩, rfl⟩, rfl⟩, rfl⟩ := hvalues
  obtain ⟨items, rfl, hitems⟩ := hpermissions.inv_array
  have hlist : items.mapM permission = some r.permissions := by
    rw [mapM_eq_some_iff]
    exact ((List.forall₂_map_left_iff.mp hitems).imp fun p v => hpermission p v).flip
  rw [ofJsonWith?, hslots, hid.eq_of_leaf (Json.isLeaf_ofText _),
    hname.eq_of_leaf (Json.isLeaf_ofText _), hdisplay.eq_of_leaf (Json.isLeaf_ofText _),
    hdescription.eq_of_leaf (Json.isLeaf_optional (fun a : NonBlank => Json.isLeaf_ofText a.text) _),
    hsystem.eq_of_leaf trivial, hcount.eq_of_leaf trivial,
    hcreated.eq_of_leaf (Json.isLeaf_optional (fun t : Instant => Json.isLeaf_ofText t.text) _),
    hupdated.eq_of_leaf (Json.isLeaf_optional (fun t : Instant => Json.isLeaf_ofText t.text) _)]
  simp only [List.map_cons, List.map_nil, Json.required, Json.defaulted, Json.list?, Json.bool?,
    hlist, Id.ofJson?_toJson, Json.uint32?_ofNat, NonBlank.text?_toJson,
    Json.optionally_of_ne_null (NonBlank.toJson_ne_null _),
    Json.optionally_optional NonBlank.toJson_ne_null NonBlank.text?_toJson,
    Json.optionally_optional Instant.toJson_ne_null Instant.ofJson?_toJson]
  simp [Role.toInput, Role.asWritten]

/-- The instants of an input are read from texts. -/
theorem RoleInput.endsMinute_of_ofJsonWith? {idNames : Json.Field}
    {permission : Json → Option Permission} {input : RoleInput}
    (h : ofJsonWith? idNames permission v = some input) :
    ∀ t, input.createdAt = some t ∨ input.updatedAt = some t → t.EndsMinute := by
  have hread : ∀ {field : Option Json} {o : Option Instant},
      Json.optionally Instant.ofJson? field = some o → ∀ t, o = some t → t.EndsMinute := by
    intro field o ho t ht
    cases ht
    obtain ⟨v, rfl, hv⟩ := Json.exists_of_optionally ho
    exact Instant.endsMinute_of_ofJson? hv
  unfold ofJsonWith? at h
  dsimp only at h
  split at h
  next =>
    simp only [Option.bind_eq_bind, Option.bind_eq_some_iff, Option.pure_def] at h
    obtain ⟨_, -, _, -, _, -, _, -, _, -, _, -, _, -, _, hcreated, _, hupdated, hinput⟩ := h
    cases hinput
    rintro t (ht | ht)
    · exact hread hcreated t ht
    · exact hread hupdated t ht
  next => cases h

end Records

/-! ## What comes back -/

/-- A permission comes back, whatever the order of its members. -/
theorem Permission.ofJson?_reordered {p : Permission} {v : Json} (h : Respelled [] p.toJson v) :
    ofJson? v = some p := by
  rw [ofJson?, slots?_respelled ⟨by decide, by decide⟩ h]
  simp only [Json.required, Json.defaulted, Id.ofJson?_toJson, Category.ofJson?_toJson,
    Action.ofJson?_toJson, Json.text?_ofText]
  rfl

/-- A role comes back as it was written, whatever the order of its members. -/
theorem Role.ofJson?_reordered {r : Role} {v : Json} (h : Respelled [] r.toJson v) :
    ofJson? v = some r.asWritten := by
  have hinput : RoleInput.ofJson? v = some r.asWritten.toInput :=
    RoleInput.ofJsonWith?_respelled ⟨by decide, by decide⟩
      (fun _ _ => Permission.ofJson?_reordered) h
  rw [ofJson?, hinput, Option.bind_some]
  exact congrArg Except.toOption (ofInput_toInput r.asWritten r.userCount)

/-- A role that was read has nothing that could not be written. -/
theorem Role.asWritten_of_ofJson? {v : Json} {r : Role} (h : ofJson? v = some r) :
    r.asWritten = r := by
  obtain ⟨input, hinput, hrole⟩ := Option.bind_eq_some_iff.mp h
  obtain ⟨name, -, rfl⟩ := exists_eq_named (toOption_eq_some_iff.mp hrole)
  exact asWritten_eq_self_iff.mpr (RoleInput.endsMinute_of_ofJsonWith? hinput)

/-- A user comes back, whatever the order of the members. -/
theorem User.ofJson?_reordered {u : User} {v : Json} (h : Respelled [] u.toJson v) :
    ofJson? v = some u :=
  ofJsonWith?_respelled ⟨by decide, by decide⟩ h

/-- An assignment comes back, whatever the order of its members. -/
theorem Assignment.ofJson?_reordered {a : Assignment} {v : Json} (h : Respelled [] a.toJson v) :
    ofJson? v = some a := by
  have hcovers : Covers [] [["user_id"], ["role_id"]] ["user_id", "role_id"] :=
    ⟨by decide, by decide⟩
  obtain ⟨values, hslots, hvalues⟩ := Json.slots?_of_respelled hcovers h
  simp only [List.map_cons, List.map_nil, List.forall₂_cons_left_iff,
    List.forall₂_nil_left_iff] at hvalues
  obtain ⟨_, _, huser, ⟨_, _, hrole, rfl, rfl⟩, rfl⟩ := hvalues
  rw [ofJson?, hslots, huser.eq_of_leaf (Json.isLeaf_ofText _),
    hrole.eq_of_leaf (Json.isLeaf_ofText _)]
  simp only [List.map_cons, List.map_nil, Json.required, Id.ofJson?_toJson]
  rfl

/-- **Round trip.** What is written in JSON is read back as it was, whatever the order in which its
members come; only a leap second inside a minute is read as the second after it. To read a role and
to write it again brings it into a form that stays the same, whatever it was read from. -/
theorem json_comes_back :
    (∀ (r : Role) (v : Json), Respelled [] r.toJson v → Role.ofJson? v = some r.asWritten) ∧
    (∀ r : Role, r.asWritten = r ↔
      ∀ t : Instant, r.createdAt = some t ∨ r.updatedAt = some t → t.EndsMinute) ∧
    (∀ (p : Permission) (v : Json), Respelled [] p.toJson v → Permission.ofJson? v = some p) ∧
    (∀ (u : User) (v : Json), Respelled [] u.toJson v → User.ofJson? v = some u) ∧
    (∀ (a : Assignment) (v : Json), Respelled [] a.toJson v → Assignment.ofJson? v = some a) ∧
    (∀ a : NonBlank, NonBlank.ofJson? a.toJson = some a) ∧
    (∀ c : Category, Category.ofJson? c.toJson = some c) ∧
    (∀ (kind : IdKind) (a : Id kind), Id.ofJson? a.toJson = some a) ∧
    ∀ (w : Json) (r : Role), Role.ofJson? w = some r → ∀ v : Json, Respelled [] r.toJson v →
      Role.ofJson? v = Role.ofJson? w := by
  refine ⟨fun _ _ => Role.ofJson?_reordered, fun _ => Role.asWritten_eq_self_iff,
    fun _ _ => Permission.ofJson?_reordered, fun _ _ => User.ofJson?_reordered,
    fun _ _ => Assignment.ofJson?_reordered, NonBlank.ofJson?_toJson, Category.ofJson?_toJson,
    fun _ => Id.ofJson?_toJson, fun w r hw v h => ?_⟩
  rw [Role.ofJson?_reordered h, Role.asWritten_of_ofJson? hw, hw]

/-- A role with a permission, last changed in the middle of a leap second. -/
def auditors : Role :=
  let name : NonBlank := ⟨"Auditors", by decide, by decide⟩
  let books : Category := ⟨"books.2016", by decide, by decide⟩
  { id := ⟨⟨12, by decide⟩⟩, name := name, displayName := name, description := none
    isSystem := true
    permissions := [⟨⟨⟨13, by decide⟩⟩, books, .read, " to look \n only"⟩]
    userCount := 4294967295, createdAt := none
    updatedAt := some ⟨⟨2016, 12, 31⟩, 86399, 1500000000, by decide, by decide, by decide⟩
    distinct := by decide }

theorem auditors_come_back :
    ∃ members, auditors.toJson = Json.record members ∧
      Respelled [] auditors.toJson (Json.record members.reverse) ∧
      auditors.asWritten = auditors ∧
      Role.ofJson? (Json.record members.reverse) = some auditors ∧
      Role.ofJson? (Json.record members.reverse) = Role.ofJson? auditors.toJson := by
  have hreversed (members : List (String × Json)) :
      Respelled [] (Json.record members) (Json.record members.reverse) :=
    .reordered members.reverse_perm
  obtain ⟨hrole, htold, -, -, -, -, -, -, hagain⟩ := json_comes_back
  have hauditors : auditors.asWritten = auditors := by
    refine (htold auditors).mpr fun t ht => ?_
    rcases ht with ht | ht
    · cases ht
    · cases ht
      decide
  have hread := hrole auditors _ (.same _)
  have hreread := hrole auditors _ (hreversed _)
  rw [hauditors] at hread hreread
  exact ⟨_, rfl, hreversed _, hauditors, hreread, hagain _ auditors hread _ (hreversed _)⟩

/-- A role that was made in the middle of a leap second, and that within a minute. -/
def nightWatch : Role :=
  let name : NonBlank := ⟨"Night watch", by decide, by decide⟩
  { id := ⟨⟨17, by decide⟩⟩, name := name, displayName := name, description := none
    isSystem := false, permissions := [], userCount := 0
    createdAt := some ⟨⟨2016, 12, 31⟩, 45296, 1500000000, by decide, by decide, by decide⟩
    updatedAt := none, distinct := by decide }

/-- What comes back is not always the same role: half way into a leap second after 12:34:56 is read
as half way into 12:34:57. -/
theorem leap_second_moves :
    Role.ofJson? nightWatch.toJson = some { nightWatch with
      createdAt := some ⟨⟨2016, 12, 31⟩, 45297, 500000000, by decide, by decide, by decide⟩ } ∧
    Role.ofJson? nightWatch.toJson ≠ some nightWatch := by
  have hread : Role.ofJson? nightWatch.toJson = some nightWatch.asWritten :=
    Role.ofJson?_reordered (.same _)
  rw [hread]
  exact ⟨congrArg some (by decide), fun h => absurd (Option.some.inj h) (by decide)⟩

end Rolebook
