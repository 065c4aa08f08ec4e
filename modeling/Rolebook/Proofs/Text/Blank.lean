import Mathlib.Data.List.DropRight
import Mathlib.Data.List.TakeWhile
import Rolebook.Text.Blank

/-!
# White space around a text

Every text is what is left of it by trimming, with white space before and after (`exists_padding`),
and there is no other way to take it apart like that: however much white space is put around a text,
it is trimmed to the same (`trim_padded`), and a text without any at its ends is left as it is
(`trim_eq_self_iff`).
-/

namespace Rolebook.Text

/-- There is nothing but white space in a text. -/
def AllBlank (s : String) : Prop := ∀ c ∈ s.toList, isBlank c = true

instance (s : String) : Decidable (AllBlank s) :=
  decidable_of_iff (s.toList.all isBlank = true) List.all_eq_true

theorem AllBlank.append {s t : String} (hs : AllBlank s) (ht : AllBlank t) : AllBlank (s ++ t) := by
  intro c hc
  rw [String.toList_append, List.mem_append] at hc
  exact hc.elim (hs c) (ht c)

/-- There is no white space at the ends of a text. -/
structure Tight (s : String) : Prop where
  start : ∀ c ∈ s.toList.head?, isBlank c = false
  finish : ∀ c ∈ s.toList.getLast?, isBlank c = false

/-! ## Lists of characters -/

section Chars

variable {before cs after : List Char}

/-- White space before a text is taken off. -/
theorem trimStartList_append (h : ∀ c ∈ before, isBlank c = true) :
    trimStartList (before ++ cs) = trimStartList cs :=
  List.dropWhile_append_of_pos h

/-- White space after a text is taken off. -/
theorem trimEndList_append (h : ∀ c ∈ after, isBlank c = true) :
    trimEndList (cs ++ after) = trimEndList cs := by
  have hreverse : ∀ c ∈ after.reverse, isBlank c = true := fun c hc => h c (List.mem_reverse.mp hc)
  rw [trimEndList, trimEndList, List.reverse_append, List.dropWhile_append_of_pos hreverse]

theorem trimStartList_eq_nil (h : ∀ c ∈ cs, isBlank c = true) : trimStartList cs = [] :=
  List.dropWhile_eq_nil_iff.mpr h

/-- Trimming does not see white space after a text. -/
theorem trimList_append (h : ∀ c ∈ after, isBlank c = true) :
    trimList (cs ++ after) = trimList cs := by
  rw [trimList, trimList, trimStartList, trimStartList, List.dropWhile_append]
  split
  next hblank =>
    -- what follows is white space as well, and nothing is left of either
    rw [List.isEmpty_iff.mp hblank]
    exact congrArg trimEndList (trimStartList_eq_nil h)
  next => exact trimEndList_append h

theorem trimStartList_eq_self (h : ∀ c ∈ cs.head?, isBlank c = false) : trimStartList cs = cs := by
  cases cs with
  | nil => rfl
  | cons c cs => rw [trimStartList, List.dropWhile_cons, h c rfl]; rfl

theorem trimEndList_eq_self (h : ∀ c ∈ cs.getLast?, isBlank c = false) : trimEndList cs = cs := by
  have hreverse : trimStartList cs.reverse = cs.reverse := by
    refine trimStartList_eq_self fun c hc => h c ?_
    rwa [List.head?_reverse] at hc
  rw [trimEndList, show cs.reverse.dropWhile isBlank = cs.reverse from hreverse, List.reverse_reverse]

/-- What is left does not start with white space. -/
theorem head?_trimStartList {c : Char} (h : c ∈ (trimStartList cs).head?) : isBlank c = false := by
  have hnot := List.head?_dropWhile_not isBlank cs
  rw [show (cs.dropWhile isBlank).head? = some c from h] at hnot
  simpa using hnot

/-- What is left does not end with white space. -/
theorem getLast?_trimEndList {c : Char} (h : c ∈ (trimEndList cs).getLast?) : isBlank c = false := by
  rw [trimEndList, List.getLast?_reverse] at h
  exact head?_trimStartList h

/-- All that is taken off before a text is white space. -/
theorem exists_before (cs : List Char) :
    ∃ before, (∀ c ∈ before, isBlank c = true) ∧ cs = before ++ trimStartList cs :=
  ⟨cs.takeWhile isBlank, fun _ hc => List.mem_takeWhile_imp hc, List.takeWhile_append_dropWhile.symm⟩

/-- All that is taken off after a text is white space. -/
theorem exists_after (cs : List Char) :
    ∃ after, (∀ c ∈ after, isBlank c = true) ∧ cs = trimEndList cs ++ after :=
  ⟨cs.rtakeWhile isBlank, fun _ hc => List.mem_rtakeWhile_imp hc,
    List.rdropWhile_append_rtakeWhile.symm⟩

end Chars

/-! ## Texts -/

section Texts

variable {before s after : String}

/-- White space around a text makes no difference to what is left by trimming. -/
theorem trim_padded (hbefore : AllBlank before) (hafter : AllBlank after) :
    trim (before ++ s ++ after) = trim s := by
  rw [trim, trim, String.toList_append, String.toList_append, trimList_append hafter, trimList,
    trimStartList_append hbefore, trimList]

/-- A trimmed text has no white space around it. -/
theorem tight_trim (s : String) : Tight (trim s) where
  start c hc := by
    -- what is left once the end is gone still starts as it did
    have hstart : trimStartList (trimList s.toList) = trimList s.toList :=
      trimStartList_trimEndList _ (dropWhile_dropWhile_self isBlank s.toList)
    rw [toList_trim, ← hstart] at hc
    exact head?_trimStartList hc
  finish c hc := getLast?_trimEndList (by rwa [toList_trim, trimList] at hc)

/-- A text is what is left of it by trimming, with white space around it. -/
theorem exists_padding (s : String) :
    ∃ before after, AllBlank before ∧ AllBlank after ∧ s = before ++ trim s ++ after := by
  obtain ⟨before, hbefore, hstart⟩ := exists_before s.toList
  obtain ⟨after, hafter, hfinish⟩ := exists_after (trimStartList s.toList)
  refine ⟨String.ofList before, String.ofList after, ?_, ?_, ?_⟩
  · rwa [AllBlank, String.toList_ofList]
  · rwa [AllBlank, String.toList_ofList]
  · rw [trim, ← String.ofList_append, ← String.ofList_append, List.append_assoc, trimList, ← hfinish,
      ← hstart, String.ofList_toList]

/-- Just the texts without white space around them stay as they are. -/
theorem trim_eq_self_iff : trim s = s ↔ Tight s := by
  refine ⟨fun h => h ▸ tight_trim s, fun h => ?_⟩
  rw [trim, trimList, trimStartList_eq_self h.start, trimEndList_eq_self h.finish,
    String.ofList_toList]

/-- A text without white space in it is left as it is. -/
theorem trim_of_not_blank (h : ∀ c ∈ s.toList, isBlank c = false) : trim s = s :=
  trim_eq_self_iff.mpr
    { start := fun c hc => h c (List.mem_of_mem_head? hc)
      finish := fun c hc => h c (List.mem_of_getLast? hc) }

/-- Just the blank texts leave nothing. -/
theorem trim_eq_empty_iff : trim s = "" ↔ AllBlank s := by
  refine ⟨fun h => ?_, fun h => ?_⟩
  · obtain ⟨before, after, hbefore, hafter, hs⟩ := exists_padding s
    rw [hs, h, String.append_empty]
    exact hbefore.append hafter
  · rw [trim, trimList, trimStartList_eq_nil h]
    rfl

end Texts

end Rolebook.Text
