import Rolebook.Json.Record
import Rolebook.Proofs.Fallible

/-!
# The same record in other words

What a record says does not depend on the order of its members, nor on which of its names a field
goes by. `Json.Respelled aliases` relates a value to the ways of writing it that differ in these two
respects only, at any depth; without aliases they differ in order alone.

The fields of a record cover its members when each member's name, and every alias of it, is a name
of the member's own field and of no other. Then all respellings of the record have the same slots,
but for their being respelled in turn (`slots?_of_respelled`). That is all a decoder has to know.
-/

namespace Rolebook

namespace Json

/-- Names and the other names that may be put in their place. -/
abbrev Aliases := List (String × String)

/-- A name may be written as another: it is the same, or an alias. -/
def Aliases.Allow (aliases : Aliases) (name written : String) : Prop :=
  written = name ∨ (name, written) ∈ aliases

/-- A value and a way to write it: members in any order and under any of their names. -/
inductive Respelled (aliases : Aliases) : Json → Json → Prop where
  | same (v : Json) : Respelled aliases v v
  | array {items items' : List Json} (each : List.Forall₂ (Respelled aliases) items items') :
      Respelled aliases (.array items) (.array items')
  | record {members renamed written : List (String × Json)}
      (names : List.Forall₂ (fun m m' => aliases.Allow m.1 m'.1) members renamed)
      (values : List.Forall₂ (Respelled aliases) (members.map (·.2)) (renamed.map (·.2)))
      (order : written.Perm renamed) : Respelled aliases (.record members) (.record written)

variable {aliases : Aliases}

/-- Members may change places. -/
theorem Respelled.reordered {members written : List (String × Json)} (h : written.Perm members) :
    Respelled aliases (Json.record members) (Json.record written) :=
  .record (List.forall₂_same.mpr fun _ _ => Or.inl rfl) (List.forall₂_same.mpr fun v _ => .same v) h

/-- Neither an array nor an object. -/
def IsLeaf : Json → Prop
  | .array _ | .object _ => False
  | _ => True

/-- A record says which members it has, in which order. -/
theorem record_inj {members members' : List (String × Json)}
    (h : Json.record members = Json.record members') : members = members' := by
  refine List.map_injective_iff.mpr ?_ (Json.object.inj h)
  rintro ⟨n, v⟩ ⟨n', v'⟩ he
  cases he
  rfl

theorem isLeaf_ofText (s : String) : (ofText s).IsLeaf := trivial

/-- What has no members can only be written in one way. -/
theorem Respelled.eq_of_leaf {v v' : Json} (h : Respelled aliases v v') (hv : v.IsLeaf) :
    v' = v := by
  cases h with
  | same => rfl
  | array | record => exact hv.elim

/-- An array is respelled item by item. -/
theorem Respelled.inv_array {items : List Json} {v : Json}
    (h : Respelled aliases (.array items) v) :
    ∃ items', v = .array items' ∧ List.Forall₂ (Respelled aliases) items items' := by
  cases h with
  | same => exact ⟨items, rfl, List.forall₂_same.mpr fun v _ => .same v⟩
  | array each => exact ⟨_, rfl, each⟩

/-- A record is respelled by renaming its members, respelling their values, and putting them in
another order. -/
theorem Respelled.inv_record {members : List (String × Json)} {v : Json}
    (h : Respelled aliases (Json.record members) v) :
    ∃ renamed written, v = Json.record written ∧ written.Perm renamed ∧
      List.Forall₂ (fun m m' => aliases.Allow m.1 m'.1) members renamed ∧
      List.Forall₂ (Respelled aliases) (members.map (·.2)) (renamed.map (·.2)) := by
  generalize hv : Json.record members = r at h
  cases h with
  | same =>
    subst hv
    exact ⟨members, members, rfl, .refl _, List.forall₂_same.mpr fun _ _ => Or.inl rfl,
      List.forall₂_same.mpr fun v _ => .same v⟩
  | array => cases hv
  | record names values order =>
    cases record_inj hv
    exact ⟨_, _, rfl, order, names, values⟩

/-! ## Slots -/

/-- A field fits a member if it goes by whatever name the member may be written with. -/
def Fits (aliases : Aliases) (field : Field) (name : String) : Prop :=
  name ∈ field ∧ ∀ a ∈ aliases, a.1 = name → a.2 ∈ field

instance (field : Field) (name : String) : Decidable (Fits aliases field name) :=
  inferInstanceAs (Decidable (_ ∧ _))

/-- A field goes by all the names that its member may have. -/
theorem Fits.mem {field : Field} {name written : String} (h : Fits aliases field name)
    (hw : aliases.Allow name written) : written ∈ field := by
  rcases hw with rfl | hw
  · exact h.1
  · exact h.2 _ hw rfl

/-- Each of the fields fits the member in its place, and no two of them share a name. -/
structure Covers (aliases : Aliases) (fields : List Field) (names : List String) : Prop where
  fit : List.Forall₂ (Fits aliases) fields names
  apart : fields.Pairwise fun field field' => ∀ name ∈ field, name ∉ field'

/-- Members with all their names given. -/
def named (members : List (String × Json)) : List (Option String × Json) :=
  members.map fun (name, value) => (some name, value)

/-- The values of a field are those of the members that go by one of its names. -/
theorem valuesOf_named (field : Field) (members : List (String × Json)) :
    valuesOf field (named members)
      = (members.filter fun m => decide (m.1 ∈ field)).map (·.2) := by
  induction members with
  | nil => rfl
  | cons m members ih =>
    simp only [valuesOf, named, List.map_cons, List.filterMap_cons, List.filter_cons] at ih ⊢
    by_cases hm : m.1 ∈ field
    · simp only [hm, if_true, decide_true, List.map_cons, ih]
    · simp only [hm, if_false, decide_false, Bool.false_eq_true, ih]

/-- A field is found whatever the order of the members. -/
theorem memberSlot?_perm {members members' : List (String × Json)} (h : members.Perm members')
    (field : Field) : memberSlot? (named members) field = memberSlot? (named members') field := by
  have hvalues := ((h.filter fun m => decide (m.1 ∈ field)).map (·.2))
  rw [← valuesOf_named, ← valuesOf_named] at hvalues
  unfold memberSlot?
  -- one value at most is told apart from more of them, and the order of one does not matter
  cases hl : valuesOf field (named members) with
  | nil => rw [hl] at hvalues; rw [hvalues.nil_eq]
  | cons v vs =>
    cases vs with
    | nil => rw [hl] at hvalues; rw [List.singleton_perm.mp hvalues]
    | cons v' vs =>
      rw [hl] at hvalues
      have hlength := hvalues.length_eq
      cases hl' : valuesOf field (named members') with
      | nil => rw [hl'] at hlength; cases hlength
      | cons w ws =>
        cases ws with
        | nil => rw [hl'] at hlength; cases hlength
        | cons => rfl

/-- Where fields and members go together one by one, each member has its field. -/
theorem exists_field {fields : List Field} {members : List (String × Json)}
    (hown : List.Forall₂ (fun field m => m.1 ∈ field) fields members) :
    ∀ m ∈ members, ∃ field ∈ fields, m.1 ∈ field := by
  induction hown with
  | nil => exact nofun
  | @cons field m fields members hm _ ih =>
    intro m' hm'
    rcases List.mem_cons.mp hm' with rfl | hm'
    · exact ⟨field, List.mem_cons_self .., hm⟩
    · obtain ⟨field', hf, hin⟩ := ih m' hm'
      exact ⟨field', List.mem_cons_of_mem _ hf, hin⟩

/-- Where no two fields share a name, the slot of each field holds the value of its own member. -/
theorem memberSlot?_own {fields : List Field} {members : List (String × Json)}
    (hown : List.Forall₂ (fun field m => m.1 ∈ field) fields members)
    (hapart : fields.Pairwise fun field field' => ∀ name ∈ field, name ∉ field') :
    List.Forall₂ (fun field m => memberSlot? (named members) field = some (some m.2))
      fields members := by
  have hvalues : List.Forall₂ (fun field m =>
      (members.filter fun m => decide (m.1 ∈ field)).map (·.2) = [m.2]) fields members := by
    induction hown with
    | nil => exact .nil
    | @cons field m fields members hm hrest ih =>
      obtain ⟨hfield, hfields⟩ := List.pairwise_cons.mp hapart
      refine .cons ?_ ?_
      · -- the other members belong to other fields
        have hothers : (members.filter fun m => decide (m.1 ∈ field)) = [] := by
          refine List.filter_eq_nil_iff.mpr fun m' hm' hin => ?_
          obtain ⟨field', hf, hin'⟩ := exists_field hrest m' hm'
          exact hfield field' hf _ (of_decide_eq_true hin) hin'
        rw [List.filter_cons, if_pos (decide_eq_true hm), hothers]
        rfl
      · have hboth := (List.forall₂_and_left _ _).mpr ⟨hfield, ih hfields⟩
        refine hboth.imp fun field' m' ⟨hothers, hvalue⟩ => ?_
        rwa [List.filter_cons, if_neg (by simpa using hothers _ hm)]
  refine hvalues.imp fun field m hvalue => ?_
  rw [memberSlot?, valuesOf_named, hvalue]

/-- **Slots of a respelled record.** Each field holds the value of its own member, respelled. -/
theorem slots?_of_respelled {fields : List Field} {members : List (String × Json)}
    (hcovers : Covers aliases fields (members.map (·.1))) {v : Json}
    (h : Respelled aliases (Json.record members) v) :
    ∃ values, slots? fields v = some (values.map some) ∧
      List.Forall₂ (Respelled aliases) (members.map (·.2)) values := by
  obtain ⟨renamed, written, rfl, hperm, hnames, hvalues⟩ := h.inv_record
  have hfit : List.Forall₂ (fun field m => Fits aliases field m.1) fields members :=
    List.forall₂_map_right_iff.mp hcovers.fit
  have hown : List.Forall₂ (fun field m => m.1 ∈ field) fields renamed := by
    refine List.forall₂_iff_get.mpr ⟨?_, fun i hi hi' => ?_⟩
    · exact hfit.length_eq.trans hnames.length_eq
    · have hi'' : i < members.length := hfit.length_eq ▸ hi
      exact ((List.forall₂_iff_get.mp hfit).2 i hi hi'').mem
        ((List.forall₂_iff_get.mp hnames).2 i hi'' hi')
  have hslots : fields.mapM (memberSlot? (named written)) = some (renamed.map fun m => some m.2) := by
    rw [show memberSlot? (named written) = memberSlot? (named renamed) from
      funext (memberSlot?_perm hperm), mapM_eq_some_iff, List.forall₂_map_right_iff]
    exact memberSlot?_own hown hcovers.apart
  have hall : (named written).all (fun m => m.1.isSome) = true := by
    rw [named, List.all_map]
    exact List.all_eq_true.mpr fun _ _ => rfl
  refine ⟨renamed.map (·.2), ?_, hvalues⟩
  show (if (named written).all (fun m => m.1.isSome) then fields.mapM (memberSlot? (named written))
    else none) = _
  rw [if_pos hall, hslots, List.map_map]
  rfl

end Json

end Rolebook
