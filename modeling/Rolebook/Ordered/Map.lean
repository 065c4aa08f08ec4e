import Rolebook.Ordered.Rank

/-!
# Sorted maps

A finite map kept as its entries in increasing order of key. Two maps with the same value under
every key are equal (`SortedMap.ext_find?`), so what a map holds does not depend on the order in
which it was filled.
-/

namespace Rolebook

/-- A finite map from ranked keys. -/
structure SortedMap (κ : Type) [Ranked κ] (α : Type) where
  entries : List (κ × α)
  sorted : entries.Pairwise (fun a b => rank a.1 < rank b.1)

namespace SortedMap

variable {κ α : Type} [Ranked κ]

/-- The map with no entries. -/
def empty : SortedMap κ α := ⟨[], List.Pairwise.nil⟩

instance : Inhabited (SortedMap κ α) := ⟨empty⟩

/-- The value of the first entry under a key of rank `n`. -/
def lookupList (n : Nat) : List (κ × α) → Option α
  | [] => none
  | e :: es => if rank e.1 = n then some e.2 else lookupList n es

/-- The value under `k`. -/
def find? (m : SortedMap κ α) (k : κ) : Option α :=
  lookupList (rank k) m.entries

/-- Whether there is a value under `k`. -/
def contains (m : SortedMap κ α) (k : κ) : Bool :=
  (m.find? k).isSome

/-- The values, in the order of their keys. -/
def values (m : SortedMap κ α) : List α :=
  m.entries.map (·.2)

/-- `(k, a)` put at its place in a list of entries, in place of an entry under `k`. -/
def insertList (k : κ) (a : α) : List (κ × α) → List (κ × α)
  | [] => [(k, a)]
  | e :: es =>
    if rank k < rank e.1 then (k, a) :: e :: es
    else if rank k = rank e.1 then (k, a) :: es
    else e :: insertList k a es

/-- Putting in an entry brings in no other. -/
theorem mem_insertList {k : κ} {a : α} {x : κ × α} {es : List (κ × α)}
    (h : x ∈ insertList k a es) : x = (k, a) ∨ x ∈ es := by
  induction es with
  | nil => simpa [insertList] using h
  | cons e es ih =>
    unfold insertList at h
    split at h
    · grind
    · split at h <;> grind

/-- An entry is put in where its key belongs. -/
theorem sorted_insertList {k : κ} {a : α} {es : List (κ × α)}
    (h : es.Pairwise fun x y => rank x.1 < rank y.1) :
    (insertList k a es).Pairwise fun x y => rank x.1 < rank y.1 := by
  induction es with
  | nil => simp [insertList]
  | cons e es ih =>
    have he := List.pairwise_cons.1 h
    unfold insertList
    split
    · next hk =>
      refine List.pairwise_cons.2 ⟨fun x hx => ?_, h⟩
      rcases List.mem_cons.1 hx with rfl | hx
      · exact hk
      · exact Nat.lt_trans hk (he.1 x hx)
    · split
      · next hk => exact List.pairwise_cons.2 ⟨fun x hx => hk ▸ he.1 x hx, he.2⟩
      · refine List.pairwise_cons.2 ⟨fun x hx => ?_, ih he.2⟩
        rcases mem_insertList hx with rfl | hx
        · show rank e.1 < rank k
          omega
        · exact he.1 x hx

/-- The map with `a` under `k`, in place of what was there. -/
def insert (m : SortedMap κ α) (k : κ) (a : α) : SortedMap κ α :=
  ⟨insertList k a m.entries, sorted_insertList m.sorted⟩

/-- The map without the key `k`. -/
def erase (m : SortedMap κ α) (k : κ) : SortedMap κ α :=
  ⟨m.entries.filter fun e => rank e.1 != rank k, m.sorted.filter _⟩

theorem find?_empty (k : κ) : (empty : SortedMap κ α).find? k = none := rfl

/-- What is found is the entry just put in, or else what was found before. -/
theorem lookupList_insertList (n : Nat) (k : κ) (a : α) (es : List (κ × α)) :
    lookupList n (insertList k a es) = if rank k = n then some a else lookupList n es := by
  induction es with
  | nil => simp [insertList, lookupList]
  | cons e es ih =>
    unfold insertList
    split
    · simp [lookupList]
    · split
      · next h1 h2 =>
        simp only [lookupList]
        split
        · rfl
        · split
          · omega
          · rfl
      · simp only [lookupList, ih]
        split
        · split
          · omega
          · rfl
        · rfl

/-- What is found is the entry just put in, or else what was found before. -/
theorem find?_insert (m : SortedMap κ α) (k k' : κ) (a : α) :
    (m.insert k a).find? k' = if rank k = rank k' then some a else m.find? k' :=
  lookupList_insertList (rank k') k a m.entries

theorem find?_insert_self (m : SortedMap κ α) (k : κ) (a : α) :
    (m.insert k a).find? k = some a := by
  simp [find?_insert]

theorem find?_insert_ne (m : SortedMap κ α) {k k' : κ} (a : α) (h : k ≠ k') :
    (m.insert k a).find? k' = m.find? k' := by
  simp [find?_insert, Ranked.rank_ne h]

theorem lookupList_filter (n r : Nat) (es : List (κ × α)) :
    lookupList n (es.filter fun e => rank e.1 != r)
      = if r = n then none else lookupList n es := by
  induction es with
  | nil => simp [lookupList]
  | cons e es ih =>
    rw [List.filter_cons]
    split
    · next h =>
      simp only [bne_iff_ne, ne_eq] at h
      simp only [lookupList, ih]
      split
      · split
        · omega
        · rfl
      · rfl
    · next h =>
      have h : rank e.1 = r := by simpa using h
      rw [ih]
      simp only [lookupList]
      split
      · rfl
      · split
        · omega
        · rfl

/-- What was taken out is not found any more; all the rest is. -/
theorem find?_erase (m : SortedMap κ α) (k k' : κ) :
    (m.erase k).find? k' = if rank k = rank k' then none else m.find? k' :=
  lookupList_filter (rank k') (rank k) m.entries

/-- Where keys are in order, an entry is found under its key just if it is there. -/
theorem lookupList_eq_some_iff {k : κ} {a : α} {es : List (κ × α)}
    (h : es.Pairwise fun x y => rank x.1 < rank y.1) :
    lookupList (rank k) es = some a ↔ (k, a) ∈ es := by
  induction es with
  | nil => simp [lookupList]
  | cons e es ih =>
    have he := List.pairwise_cons.1 h
    simp only [lookupList]
    split
    · next hk =>
      have hk : e.1 = k := Ranked.rank_inj hk
      constructor
      · intro ha
        have : e = (k, a) := by cases e; simp_all
        simp [this]
      · intro hm
        rcases List.mem_cons.1 hm with e' | hm
        · rw [← e']
        · have := he.1 _ hm
          simp only [hk] at this
          omega
    · next hk =>
      rw [ih he.2]
      constructor
      · exact List.mem_cons_of_mem _
      · intro hm
        rcases List.mem_cons.1 hm with e' | hm
        · rw [← e'] at hk
          exact absurd rfl hk
        · exact hm

/-- The entries are the pairs of a key and the value found under it. -/
theorem mem_entries_iff (m : SortedMap κ α) (k : κ) (a : α) :
    (k, a) ∈ m.entries ↔ m.find? k = some a :=
  (lookupList_eq_some_iff m.sorted).symm

/-- The values are what can be found. -/
theorem mem_values_iff (m : SortedMap κ α) (a : α) :
    a ∈ m.values ↔ ∃ k, m.find? k = some a := by
  simp only [values, List.mem_map]
  constructor
  · rintro ⟨⟨k, b⟩, hm, rfl⟩
    exact ⟨k, (mem_entries_iff m k b).1 hm⟩
  · rintro ⟨k, hk⟩
    exact ⟨(k, a), (mem_entries_iff m k a).2 hk, rfl⟩

/-- Maps with the same value under every key are equal. -/
theorem ext_find? {m n : SortedMap κ α} (h : ∀ k, m.find? k = n.find? k) : m = n := by
  have hmem : ∀ e, e ∈ m.entries ↔ e ∈ n.entries := fun ⟨k, a⟩ => by
    rw [mem_entries_iff, mem_entries_iff, h]
  have hasym : ∀ a b : κ × α, a ∈ m.entries → b ∈ n.entries →
      rank a.1 < rank b.1 → rank b.1 < rank a.1 → a = b := by
    intro a b _ _ h1 h2
    omega
  have hperm : m.entries.Perm n.entries := by
    have nodup : ∀ {es : List (κ × α)}, es.Pairwise (fun x y => rank x.1 < rank y.1) → es.Nodup :=
      fun hs => hs.imp fun hlt e => by rw [e] at hlt; exact Nat.lt_irrefl _ hlt
    exact (List.perm_ext_iff_of_nodup (nodup m.sorted) (nodup n.sorted)).2 hmem
  have := List.Perm.eq_of_pairwise hasym m.sorted n.sorted hperm
  cases m; cases n; cases this; rfl

end SortedMap

end Rolebook
