import Rolebook.Proofs.Json.Respelled

/-!
# Values that can be kept

A value can be kept whole if it is not nested too deep and everything in it is legible. `KeptWithin
n` says so for nestings up to `n`: a leaf takes none, and an array or an object one more than what
is in it. Neither the order nor the names of members matter, so a respelled value is kept within the
same limit (`KeptWithin.respelled`).
-/

namespace Rolebook.Json

variable {n : Nat}

/-- A list of items is as deep as its deepest. -/
theorem depthOfItems_le_iff {items : List Json} :
    depthOfItems items ≤ n ↔ ∀ v ∈ items, v.depth ≤ n := by
  induction items with
  | nil => simp [depthOfItems]
  | cons v items ih => simp only [depthOfItems, Nat.max_le, List.forall_mem_cons, ih]

/-- A list of members is as deep as its deepest. -/
theorem depthOfMembers_le_iff {members : List (Option String × Json)} :
    depthOfMembers members ≤ n ↔ ∀ m ∈ members, m.2.depth ≤ n := by
  induction members with
  | nil => simp [depthOfMembers]
  | cons m members ih =>
    obtain ⟨name, v⟩ := m
    simp only [depthOfMembers, Nat.max_le, List.forall_mem_cons, ih]

theorem areLegible_iff {items : List Json} :
    areLegible items = true ↔ ∀ v ∈ items, v.isLegible = true := by
  induction items with
  | nil => simp [areLegible]
  | cons v items ih => simp [areLegible, ih]

theorem membersAreLegible_iff {members : List (Option String × Json)} :
    membersAreLegible members = true ↔
      ∀ m ∈ members, m.1.isSome = true ∧ m.2.isLegible = true := by
  induction members with
  | nil => simp [membersAreLegible]
  | cons m members ih =>
    obtain ⟨name, v⟩ := m
    simp only [membersAreLegible, Bool.and_eq_true, List.forall_mem_cons, ih]

/-- A value can be kept whole in `n` nestings. -/
def KeptWithin (n : Nat) (v : Json) : Prop :=
  v.depth ≤ n ∧ v.isLegible = true

/-- To be kept is to be legible and no deeper than the limit. -/
theorem isKept_iff {v : Json} : v.isKept = true ↔ KeptWithin depthLimit v := by
  rw [isKept, Bool.and_eq_true, decide_eq_true_eq, KeptWithin]

theorem KeptWithin.mono {m : Nat} {v : Json} (h : KeptWithin n v) (hnm : n ≤ m) :
    KeptWithin m v :=
  ⟨Nat.le_trans h.1 hnm, h.2⟩

theorem keptWithin_ofText (s : String) : KeptWithin n (ofText s) := ⟨Nat.zero_le n, rfl⟩

theorem keptWithin_bool (b : Bool) : KeptWithin n (.bool b) := ⟨Nat.zero_le n, rfl⟩

theorem keptWithin_ofNat (count : Nat) : KeptWithin n (ofNat count) := ⟨Nat.zero_le n, rfl⟩

/-- `null` is no deeper than a value. -/
theorem keptWithin_optional {α : Type} {encode : α → Json} (h : ∀ a, KeptWithin n (encode a))
    (o : Option α) : KeptWithin n (optional encode o) := by
  cases o with
  | none => exact ⟨Nat.zero_le n, rfl⟩
  | some a => exact h a

/-- An array is one level above its items. -/
theorem keptWithin_array_iff {items : List Json} :
    KeptWithin (n + 1) (.array items) ↔ ∀ v ∈ items, KeptWithin n v := by
  rw [KeptWithin, depth, isLegible, Nat.add_le_add_iff_right, depthOfItems_le_iff, areLegible_iff]
  exact ⟨fun h v hv => ⟨h.1 v hv, h.2 v hv⟩, fun h => ⟨fun v hv => (h v hv).1, fun v hv => (h v hv).2⟩⟩

/-- An object is one level above its members, and their names are texts. -/
theorem keptWithin_object_iff {members : List (Option String × Json)} :
    KeptWithin (n + 1) (.object members) ↔
      ∀ m ∈ members, m.1.isSome = true ∧ KeptWithin n m.2 := by
  rw [KeptWithin, depth, isLegible, Nat.add_le_add_iff_right, depthOfMembers_le_iff,
    membersAreLegible_iff]
  exact ⟨fun h m hm => ⟨(h.2 m hm).1, h.1 m hm, (h.2 m hm).2⟩,
    fun h => ⟨fun m hm => (h m hm).2.1, fun m hm => ⟨(h m hm).1, (h m hm).2.2⟩⟩⟩

/-- The names in a record are texts, so only its values matter. -/
theorem keptWithin_record_iff {members : List (String × Json)} :
    KeptWithin (n + 1) (record members) ↔ ∀ v ∈ members.map (·.2), KeptWithin n v := by
  rw [record, keptWithin_object_iff, List.forall_mem_map, List.forall_mem_map]
  exact forall₂_congr fun _ _ => and_iff_right rfl

/-- What holds of a value and itself, and carries over from what arrays and objects hold to them,
holds of a value and its respellings. -/
theorem Respelled.induct {aliases : Aliases} {P : Json → Json → Prop} (same : ∀ v, P v v)
    (array : ∀ {items items'}, List.Forall₂ P items items' → P (.array items) (.array items'))
    (record : ∀ {members renamed written : List (String × Json)},
      List.Forall₂ P (members.map (·.2)) (renamed.map (·.2)) → written.Perm renamed →
        P (.record members) (.record written))
    {v v' : Json} (h : Respelled aliases v v') : P v v' :=
  -- the second motive is for the lists of items and of values
  @Respelled.rec aliases (fun v v' _ => P v v') (fun vs vs' _ => List.Forall₂ P vs vs') same
    (fun _ each => array each) (fun _ _ order each => record each order) .nil
    (fun _ _ hv hvs => .cons hv hvs) _ _ h

theorem not_keptWithin_zero_array {items : List Json} : ¬ KeptWithin 0 (.array items) :=
  fun h => Nat.not_succ_le_zero _ h.1

theorem not_keptWithin_zero_record {members : List (String × Json)} :
    ¬ KeptWithin 0 (record members) :=
  fun h => Nat.not_succ_le_zero _ h.1

/-- Other names and another order change neither how deep a value is nor whether it is legible. -/
theorem KeptWithin.respelled {aliases : Aliases} {v v' : Json} (hv : KeptWithin n v)
    (h : Respelled aliases v v') : KeptWithin n v' := by
  have hall : ∀ n, KeptWithin n v → KeptWithin n v' := by
    have heach : ∀ {vs vs' : List Json} {n : Nat},
        List.Forall₂ (fun v v' => ∀ n, KeptWithin n v → KeptWithin n v') vs vs' →
          (∀ v ∈ vs, KeptWithin n v) → ∀ v' ∈ vs', KeptWithin n v' := by
      intro vs vs' n hvs hkept
      induction hvs with
      | nil => exact nofun
      | cons hv _ ih =>
        rw [List.forall_mem_cons] at hkept ⊢
        exact ⟨hv n hkept.1, ih hkept.2⟩
    refine h.induct (P := fun v v' => ∀ n, KeptWithin n v → KeptWithin n v') (fun _ _ hv => hv)
      (fun each n hv => ?_) fun each order n hv => ?_
    · cases n with
      | zero => exact absurd hv not_keptWithin_zero_array
      | succ n => exact keptWithin_array_iff.mpr (heach each (keptWithin_array_iff.mp hv))
    · cases n with
      | zero => exact absurd hv not_keptWithin_zero_record
      | succ n =>
        rw [keptWithin_record_iff] at hv ⊢
        exact fun v' hv' => heach each hv v' ((order.map (·.2)).mem_iff.mp hv')
  exact hall n hv

end Rolebook.Json
