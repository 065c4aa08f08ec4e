import Rolebook.Ordered.Rank

/-!
# Sorted sets

A finite set kept as its elements in increasing order, so that two sets with the same elements are
equal (`SortedSet.ext_mem`) and listing a set needs no sorting. Each operation comes with what it
does to membership.
-/

namespace Rolebook

/-- A finite set of ranked elements. -/
structure SortedSet (κ : Type) [Ranked κ] where
  toList : List κ
  sorted : toList.Pairwise (fun a b => rank a < rank b)

namespace SortedSet

variable {κ : Type} [Ranked κ]

instance [DecidableEq κ] : DecidableEq (SortedSet κ) := fun a b =>
  decidable_of_iff (a.toList = b.toList)
    ⟨fun h => by cases a; cases b; cases h; rfl, fun h => h ▸ rfl⟩

instance : Membership κ (SortedSet κ) := ⟨fun s a => a ∈ s.toList⟩

theorem mem_def {a : κ} {s : SortedSet κ} : a ∈ s ↔ a ∈ s.toList := Iff.rfl

/-- Whether `a` is an element. -/
def contains (s : SortedSet κ) (a : κ) : Bool :=
  s.toList.any fun b => rank b == rank a

/-- The check finds what is there. -/
theorem contains_iff {s : SortedSet κ} {a : κ} : s.contains a = true ↔ a ∈ s := by
  simp only [contains, List.any_eq_true, beq_iff_eq, mem_def]
  constructor
  · rintro ⟨b, hb, e⟩
    exact Ranked.rank_inj e ▸ hb
  · exact fun h => ⟨a, h, rfl⟩

instance (a : κ) (s : SortedSet κ) : Decidable (a ∈ s) :=
  decidable_of_iff _ contains_iff

/-- The set with no elements. -/
def empty : SortedSet κ := ⟨[], List.Pairwise.nil⟩

instance : Inhabited (SortedSet κ) := ⟨empty⟩

theorem not_mem_empty (a : κ) : a ∉ (empty : SortedSet κ) := by
  simp [mem_def, empty]

/-- How many elements there are. -/
def size (s : SortedSet κ) : Nat := s.toList.length

/-- Whether there are no elements. -/
def isEmpty (s : SortedSet κ) : Bool := s.toList.isEmpty

/-- `a` put at its place in an increasing list that does not hold it yet. -/
def insertList (a : κ) : List κ → List κ
  | [] => [a]
  | b :: bs =>
    if rank a < rank b then a :: b :: bs
    else if rank a = rank b then b :: bs
    else b :: insertList a bs

theorem mem_insertList {a x : κ} (bs : List κ) : x ∈ insertList a bs ↔ x = a ∨ x ∈ bs := by
  induction bs with
  | nil => simp [insertList]
  | cons b bs ih =>
    unfold insertList
    split
    · simp
    · split
      · next h =>
        have : a = b := Ranked.rank_inj h
        subst this
        simp
      · simp only [List.mem_cons, ih]
        grind

/-- A value is put in where it belongs. -/
theorem sorted_insertList {a : κ} {bs : List κ} (h : bs.Pairwise fun x y => rank x < rank y) :
    (insertList a bs).Pairwise fun x y => rank x < rank y := by
  induction bs with
  | nil => simp [insertList]
  | cons b bs ih =>
    have hb := List.pairwise_cons.1 h
    unfold insertList
    split
    · next hab =>
      refine List.pairwise_cons.2 ⟨fun x hx => ?_, h⟩
      rcases List.mem_cons.1 hx with rfl | hx
      · exact hab
      · exact Nat.lt_trans hab (hb.1 x hx)
    · split
      · exact h
      · refine List.pairwise_cons.2 ⟨fun x hx => ?_, ih hb.2⟩
        rcases (mem_insertList bs).1 hx with rfl | hx
        · omega
        · exact hb.1 x hx

/-- The set with `a` as one more element. -/
def insert (s : SortedSet κ) (a : κ) : SortedSet κ :=
  ⟨insertList a s.toList, sorted_insertList s.sorted⟩

theorem mem_insert {s : SortedSet κ} {a x : κ} : x ∈ s.insert a ↔ x = a ∨ x ∈ s :=
  mem_insertList s.toList

/-- The elements that pass a test. -/
def filter (s : SortedSet κ) (p : κ → Bool) : SortedSet κ :=
  ⟨s.toList.filter p, s.sorted.filter p⟩

theorem mem_filter {s : SortedSet κ} {p : κ → Bool} {x : κ} :
    x ∈ s.filter p ↔ x ∈ s ∧ p x = true := by
  simp [mem_def, filter]

/-- The set without `a`. -/
def erase (s : SortedSet κ) (a : κ) : SortedSet κ :=
  s.filter fun b => rank b != rank a

theorem mem_erase {s : SortedSet κ} {a x : κ} : x ∈ s.erase a ↔ x ∈ s ∧ x ≠ a := by
  simp only [erase, mem_filter, bne_iff_ne, ne_eq, Ranked.rank_eq_iff]

/-- The elements of a list, repetitions and order forgotten. -/
def ofList (xs : List κ) : SortedSet κ :=
  xs.foldl insert empty

theorem mem_foldl_insert {xs : List κ} {s : SortedSet κ} {x : κ} :
    x ∈ xs.foldl insert s ↔ x ∈ xs ∨ x ∈ s := by
  induction xs generalizing s with
  | nil => simp
  | cons y ys ih =>
    rw [List.foldl_cons, ih, mem_insert, List.mem_cons]
    grind

/-- A set made of a list has the same members, whatever order and repetitions were in the list. -/
theorem mem_ofList {xs : List κ} {x : κ} : x ∈ ofList xs ↔ x ∈ xs := by
  simp [ofList, mem_foldl_insert, not_mem_empty]

/-- The elements of `s` that are not in `t`. -/
def diff (s t : SortedSet κ) : SortedSet κ :=
  s.filter fun a => !t.contains a

theorem mem_diff {s t : SortedSet κ} {x : κ} : x ∈ s.diff t ↔ x ∈ s ∧ x ∉ t := by
  rw [diff, mem_filter, ← contains_iff (s := t)]
  simp

/-- Increasing lists with the same elements are equal. -/
theorem eq_of_mem_iff {xs ys : List κ} (hx : xs.Pairwise fun a b => rank a < rank b)
    (hy : ys.Pairwise fun a b => rank a < rank b) (h : ∀ a, a ∈ xs ↔ a ∈ ys) : xs = ys := by
  induction xs generalizing ys with
  | nil =>
    cases ys with
    | nil => rfl
    | cons y ys => exact absurd ((h y).2 (by simp)) (by simp)
  | cons x xs ih =>
    cases ys with
    | nil => exact absurd ((h x).1 (by simp)) (by simp)
    | cons y ys =>
      have px := List.pairwise_cons.1 hx
      have py := List.pairwise_cons.1 hy
      have hxy : x = y := by
        have h1 := (h x).1 (by simp)
        have h2 := (h y).2 (by simp)
        rcases List.mem_cons.1 h1 with e | m1
        · exact e
        · rcases List.mem_cons.1 h2 with e | m2
          · exact e.symm
          · have := px.1 y m2
            have := py.1 x m1
            omega
      subst hxy
      refine congrArg (x :: ·) (ih px.2 py.2 fun a => ?_)
      constructor
      · intro ha
        rcases List.mem_cons.1 ((h a).1 (List.mem_cons_of_mem _ ha)) with rfl | m
        · exact absurd (px.1 a ha) (Nat.lt_irrefl _)
        · exact m
      · intro ha
        rcases List.mem_cons.1 ((h a).2 (List.mem_cons_of_mem _ ha)) with rfl | m
        · exact absurd (py.1 a ha) (Nat.lt_irrefl _)
        · exact m

/-- A set lists no value twice. -/
theorem nodup_toList (s : SortedSet κ) : s.toList.Nodup :=
  s.sorted.imp fun hlt heq => absurd (heq ▸ hlt) (Nat.lt_irrefl _)

/-- Sets with the same elements are equal. -/
theorem ext_mem {s t : SortedSet κ} (h : ∀ a, a ∈ s ↔ a ∈ t) : s = t := by
  have := eq_of_mem_iff s.sorted t.sorted h
  cases s; cases t; cases this; rfl

end SortedSet

end Rolebook
