import Rolebook.Ordered.Map

/-!
# What is found in a sorted map

Where an entry has been put in, either that entry is found or one that was there before
(`find?_insert_eq_some_iff`), so that values go on standing under their own keys (`key_of_insert`).

`SortedMap.map` puts another value under each key. It can be done before or after an entry is put in
or taken out, and the values are listed as before, each changed.
-/

namespace Rolebook.SortedMap

variable {κ α β : Type} [Ranked κ]

/-- What is found after an insertion was put in just now, or was there under another key. -/
theorem find?_insert_eq_some_iff {m : SortedMap κ α} {k k' : κ} {a b : α} :
    (m.insert k a).find? k' = some b ↔ (k = k' ∧ a = b) ∨ (k ≠ k' ∧ m.find? k' = some b) := by
  by_cases hk : k = k'
  · subst hk
    simp [find?_insert_self]
  · simp [find?_insert_ne m a hk, hk]

/-- Nothing is lost by an insertion. -/
theorem contains_insert {m : SortedMap κ α} {k : κ} (h : m.contains k = true) (k' : κ) (a : α) :
    (m.insert k' a).contains k = true := by
  rw [contains, find?_insert]
  split
  next => rfl
  next => exact h

/-- Values that stand under their own keys go on doing so when another is put under its own. -/
theorem key_of_insert {m : SortedMap κ α} {key : α → κ}
    (h : ∀ {k : κ} {a : α}, m.find? k = some a → key a = k) {a b : α} {k : κ}
    (hb : (m.insert (key a) a).find? k = some b) : key b = k := by
  rcases find?_insert_eq_some_iff.mp hb with ⟨hk, rfl⟩ | ⟨-, hold⟩
  · exact hk
  · exact h hold

/-- The map with each value replaced by what `f` makes of it. -/
def map (f : α → β) (m : SortedMap κ α) : SortedMap κ β :=
  ⟨m.entries.map fun e => (e.1, f e.2), List.pairwise_map.mpr m.sorted⟩

theorem lookupList_map (f : α → β) (n : Nat) (es : List (κ × α)) :
    lookupList n (es.map fun e => (e.1, f e.2)) = (lookupList n es).map f := by
  induction es with
  | nil => rfl
  | cons e es ih =>
    rw [List.map_cons, lookupList, lookupList, ih]
    split <;> rfl

/-- A map of values changes what is found, and not where. -/
theorem find?_map (f : α → β) (m : SortedMap κ α) (k : κ) :
    (m.map f).find? k = (m.find? k).map f :=
  lookupList_map f (rank k) m.entries

theorem contains_map (f : α → β) (m : SortedMap κ α) (k : κ) :
    (m.map f).contains k = m.contains k := by
  rw [contains, find?_map, Option.isSome_map]
  rfl

theorem values_map (f : α → β) (m : SortedMap κ α) : (m.map f).values = m.values.map f := by
  rw [values, map, values, List.map_map, List.map_map]
  rfl

theorem map_insert (f : α → β) (m : SortedMap κ α) (k : κ) (a : α) :
    (m.insert k a).map f = (m.map f).insert k (f a) := by
  refine ext_find? fun k' => ?_
  rw [find?_map, find?_insert, find?_insert, find?_map]
  split <;> rfl

theorem map_erase (f : α → β) (m : SortedMap κ α) (k : κ) :
    (m.erase k).map f = (m.map f).erase k := by
  refine ext_find? fun k' => ?_
  rw [find?_map, find?_erase, find?_erase, find?_map]
  split <;> rfl

/-- Of two values listed one after the other, the keys differ. -/
theorem pairwise_values {m : SortedMap κ α} {r : α → α → Prop}
    (h : ∀ {k k' a a'}, m.find? k = some a → m.find? k' = some a' → k ≠ k' → r a a') :
    m.values.Pairwise r := by
  rw [values, List.pairwise_map]
  refine m.sorted.imp_of_mem fun {e e'} he he' hlt => ?_
  refine h ((mem_entries_iff m e.1 e.2).mp he) ((mem_entries_iff m e'.1 e'.2).mp he') fun heq => ?_
  rw [heq] at hlt
  exact Nat.lt_irrefl _ hlt

end Rolebook.SortedMap
