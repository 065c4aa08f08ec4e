import Mathlib.Algebra.Group.Nat.Defs
import Mathlib.Data.List.Basic
import Rolebook.Fault
import Rolebook.Proofs.Text.Blank

/-!
# Spellings of identifiers

An identifier is written in one way and read in several. What is written is read back
(`Id.read_text`), so two identifiers are never written alike (`Id.text_inj`). And letter case makes
no difference to which identifier a text spells (`Id.read_eq_ok_of_lower`): in all four forms digits
are read in either case, and what else there is are no letters, or compared with case aside.
-/

namespace Rolebook

/-! ## Hexadecimal digits -/

namespace Text

theorem hexValue?_hexChar : ∀ d < 16, hexValue? (hexChar d) = some d := by decide

/-- One more digit at the end counts once, and all before it sixteen times as much. -/
theorem hexNumber?_append (acc : Nat) (cs : List Char) (c : Char) :
    hexNumber? acc (cs ++ [c])
      = (hexNumber? acc cs).bind fun v => (hexValue? c).map fun d => 16 * v + d := by
  induction cs generalizing acc with
  | nil =>
    show hexNumber? acc [c] = (hexValue? c).map fun d => 16 * acc + d
    rw [hexNumber?]
    cases hexValue? c <;> rfl
  | cons x xs ih =>
    rw [List.cons_append, hexNumber?, hexNumber?]
    cases hexValue? x with
    | none => rfl
    | some d => exact ih (16 * acc + d)

/-- The last `n` digits of a number tell its remainder. -/
theorem hexNumber?_hexDigits (n v : Nat) :
    hexNumber? 0 ((hexDigits n v).map hexChar) = some (v % 16 ^ n) := by
  induction n generalizing v with
  | zero =>
    rw [Nat.pow_zero, Nat.mod_one]
    rfl
  | succ n ih =>
    have hmod : v % 16 < 16 := Nat.mod_lt v (by decide)
    have hsplit : v % 16 ^ (n + 1) = 16 * (v / 16 % 16 ^ n) + v % 16 := by
      rw [Nat.pow_succ, Nat.mul_comm, Nat.mod_mul, Nat.add_comm]
    rw [hexDigits, List.map_append, List.map_singleton, hexNumber?_append, ih,
      hexValue?_hexChar _ hmod, hsplit]
    rfl

theorem lt_of_mem_hexDigits {n v d : Nat} (h : d ∈ hexDigits n v) : d < 16 := by
  induction n generalizing v with
  | zero => cases h
  | succ n ih =>
    rcases List.mem_append.mp h with h | h
    · exact ih h
    · rw [List.mem_singleton.mp h]
      exact Nat.mod_lt v (by decide)

/-! ## Letter case -/

/-- A digit counts the same in either case. -/
theorem hexValue?_toLower : ∀ c : Char, hexValue? c.toLower = hexValue? c :=
  toLower_cases (p := fun d c => hexValue? d = hexValue? c) (fun _ _ => rfl) (by decide)

/-- A number is the same in either case. -/
theorem hexNumber?_map_toLower (acc : Nat) (cs : List Char) :
    hexNumber? acc (cs.map Char.toLower) = hexNumber? acc cs := by
  induction cs generalizing acc with
  | nil => rfl
  | cons c cs ih =>
    rw [List.map_cons, hexNumber?, hexNumber?, hexValue?_toLower]
    cases hexValue? c with
    | none => rfl
    | some d => exact ih (16 * acc + d)

theorem map_toLower_map_toLower (cs : List Char) :
    (cs.map Char.toLower).map Char.toLower = cs.map Char.toLower := by
  rw [List.map_map]
  exact List.map_congr_left fun c _ => toLower_toLower c

/-- A character that stands between the groups of an identifier or around them. -/
def Frames (c : Char) : Prop := c = '-' ∨ c = '{' ∨ c = '}'

/-- The marks around digits have one case only. -/
theorem toLower_eq_iff {d : Char} (hd : Frames d) : ∀ c : Char, c.toLower = d ↔ c = d := by
  refine toLower_cases (p := fun c' c => c' = d ↔ c = d) (fun _ _ => Iff.rfl) ?_
  rcases hd with rfl | rfl | rfl <;> decide

theorem map_toLower_eq_some_iff {d : Char} (hd : Frames d) (o : Option Char) :
    o.map Char.toLower = some d ↔ o = some d := by
  cases o with
  | none => exact Iff.rfl
  | some c => rw [Option.map_some, Option.some_inj, Option.some_inj, toLower_eq_iff hd]

end Text

namespace Uuid

open Text

/-! ## What is written is read back -/

theorem ofDigits?_eq_some_iff {cs : List Char} {u : Uuid} :
    ofDigits? cs = some u ↔ cs.length = 32 ∧ hexNumber? 0 cs = some u.toNat := by
  unfold ofDigits?
  split
  next hlength =>
    split
    next v hv =>
      refine ⟨fun h => ⟨hlength, ?_⟩, fun h => ?_⟩
      · cases h
        exact hv
      · exact congrArg some (ext (Option.some.inj (hv.symm.trans h.2)))
    next hnone =>
      rw [hnone]
      exact ⟨nofun, nofun⟩
  next hlength => exact ⟨nofun, fun h => absurd h.1 hlength⟩

/-- The five groups of an identifier's digits. -/
theorem exists_groups {cs : List Char} (h : cs.length = 32) :
    ∃ a b c d e : List Char, cs = a ++ (b ++ (c ++ (d ++ e))) ∧
      a.length = 8 ∧ b.length = 4 ∧ c.length = 4 ∧ d.length = 4 ∧ e.length = 12 := by
  refine ⟨cs.take 8, (cs.drop 8).take 4, (cs.drop 12).take 4, (cs.drop 16).take 4, cs.drop 20,
    ?_, by simp [h], by simp [h], by simp [h], by simp [h], by simp [h]⟩
  have hrest : ∀ i, (cs.drop i).take 4 ++ cs.drop (i + 4) = cs.drop i := fun i => by
    rw [← List.drop_drop, List.take_append_drop]
  rw [hrest 16, hrest 12, hrest 8, List.take_append_drop]

section Groups

variable {a b c d e : List Char}

/-- Five groups with hyphens between them. -/
theorem hyphenate_groups (ha : a.length = 8) (hb : b.length = 4) (hc : c.length = 4)
    (hd : d.length = 4) :
    hyphenate (a ++ (b ++ (c ++ (d ++ e))))
      = a ++ '-' :: (b ++ '-' :: (c ++ '-' :: (d ++ '-' :: e))) := by
  simp (disch := omega) [hyphenate, List.drop_append, List.drop_eq_nil_of_le, ha, hb, hc]

/-- The hyphens taken out of five groups. -/
theorem unhyphenate_groups (ha : a.length = 8) (hb : b.length = 4) (hc : c.length = 4)
    (hd : d.length = 4) :
    unhyphenate (a ++ '-' :: (b ++ '-' :: (c ++ '-' :: (d ++ '-' :: e))))
      = a ++ (b ++ (c ++ (d ++ e))) := by
  simp (disch := omega) [unhyphenate, List.drop_append, List.drop_eq_nil_of_le, ha, hb, hc, hd]

/-- The hyphens are where they are looked for. -/
theorem hyphens_groups (ha : a.length = 8) (hb : b.length = 4) (hc : c.length = 4)
    (hd : d.length = 4) :
    ∀ i ∈ hyphenPlaces,
      (a ++ '-' :: (b ++ '-' :: (c ++ '-' :: (d ++ '-' :: e))))[i]? = some '-' := by
  simp [hyphenPlaces, List.getElem?_append, List.getElem?_cons, ha, hb, hc, hd]

end Groups

/-- The hyphens are where they are looked for, and between them are the digits. -/
theorem ofHyphenated?_hyphenate {cs : List Char} (h : cs.length = 32) :
    ofHyphenated? (hyphenate cs) = ofDigits? cs := by
  obtain ⟨a, b, c, d, e, rfl, ha, hb, hc, hd, he⟩ := exists_groups h
  rw [hyphenate_groups ha hb hc hd, ofHyphenated?,
    if_pos ⟨by simp [ha, hb, hc, hd, he], hyphens_groups ha hb hc hd⟩,
    unhyphenate_groups ha hb hc hd]

/-- An identifier is written in 36 characters. -/
theorem length_chars (u : Uuid) : u.chars.length = 36 := by
  have hlength : ((hexDigits 32 u.toNat).map hexChar).length = 32 := by
    rw [List.length_map, length_hexDigits]
  obtain ⟨a, b, c, d, e, heq, ha, hb, hc, hd, he⟩ := exists_groups hlength
  rw [chars, heq, hyphenate_groups ha hb hc hd]
  simp [ha, hb, hc, hd, he]

/-- What is written is read back. -/
theorem ofChars?_chars (u : Uuid) : ofChars? u.chars = some u := by
  have hplain : ofDigits? u.chars = none := by
    rw [ofDigits?, dif_neg (by rw [length_chars]; decide)]
  have hlength : ((hexDigits 32 u.toNat).map hexChar).length = 32 := by
    rw [List.length_map, length_hexDigits]
  have hnumber : hexNumber? 0 ((hexDigits 32 u.toNat).map hexChar) = some u.toNat := by
    have hsmall : u.toNat < 16 ^ 32 := u.isLt
    rw [hexNumber?_hexDigits, Nat.mod_eq_of_lt hsmall]
  have hhyphenated : ofHyphenated? u.chars = some u := by
    rw [chars, ofHyphenated?_hyphenate hlength]
    exact ofDigits?_eq_some_iff.mpr ⟨hlength, hnumber⟩
  rw [ofChars?, hplain, hhyphenated]

theorem toList_text (u : Uuid) : u.text.toList = u.chars := by
  rw [text, String.toList_ofList]

theorem read_text (u : Uuid) : read u.text = .ok u := by
  rw [read, toList_text, ofChars?_chars]

/-- Hyphens are all that is put in. -/
theorem mem_hyphenate {cs : List Char} {c : Char} (h : c ∈ hyphenate cs) : c = '-' ∨ c ∈ cs := by
  have htake : ∀ i, c ∈ (cs.drop i).take 4 → c ∈ cs := fun _ hm =>
    List.mem_of_mem_drop (List.mem_of_mem_take hm)
  simp only [hyphenate, List.mem_append, List.mem_cons] at h
  rcases h with (((hm | h | hm) | h | hm) | h | hm) | h | hm
  · exact Or.inr (List.mem_of_mem_take hm)
  · exact Or.inl h
  · exact Or.inr (htake 8 hm)
  · exact Or.inl h
  · exact Or.inr (htake 12 hm)
  · exact Or.inl h
  · exact Or.inr (htake 16 hm)
  · exact Or.inl h
  · exact Or.inr (List.mem_of_mem_drop hm)

theorem isBlank_hexChar : ∀ d < 16, isBlank (hexChar d) = false := by decide

/-- There is no white space in an identifier as it is written. -/
theorem isBlank_of_mem_chars {u : Uuid} {c : Char} (h : c ∈ u.chars) : isBlank c = false := by
  rcases mem_hyphenate h with rfl | hm
  · decide
  · obtain ⟨d, hd, rfl⟩ := List.mem_map.mp hm
    exact isBlank_hexChar d (lt_of_mem_hexDigits hd)

theorem trim_text (u : Uuid) : trim u.text = u.text := by
  refine trim_of_not_blank fun c hc => ?_
  rw [toList_text] at hc
  exact isBlank_of_mem_chars hc

/-! ## Letter case makes no difference -/

/-- Each of the forms is read in small letters just as it is read. -/
theorem ofDigits?_map_toLower (cs : List Char) :
    ofDigits? (cs.map Char.toLower) = ofDigits? cs := by
  refine Option.ext fun u => ?_
  rw [ofDigits?_eq_some_iff, ofDigits?_eq_some_iff, List.length_map, hexNumber?_map_toLower]

theorem unhyphenate_map_toLower (cs : List Char) :
    unhyphenate (cs.map Char.toLower) = (unhyphenate cs).map Char.toLower := by
  simp [unhyphenate]

theorem ofHyphenated?_map_toLower (cs : List Char) :
    ofHyphenated? (cs.map Char.toLower) = ofHyphenated? cs := by
  rw [ofHyphenated?, ofHyphenated?, unhyphenate_map_toLower, ofDigits?_map_toLower]
  simp only [List.length_map, List.getElem?_map, map_toLower_eq_some_iff (Or.inl rfl : Frames '-')]

theorem insideBraces?_map_toLower (cs : List Char) :
    insideBraces? (cs.map Char.toLower) = (insideBraces? cs).map (List.map Char.toLower) := by
  cases cs with
  | nil => rfl
  | cons c cs =>
    by_cases hc : c = '{'
    · subst hc
      show (if (cs.map Char.toLower).getLast? = some '}' then _ else none)
        = Option.map _ (if cs.getLast? = some '}' then _ else none)
      rw [List.getLast?_map]
      simp only [map_toLower_eq_some_iff (Or.inr (Or.inr rfl) : Frames '}')]
      split
      next => rw [Option.map_some, List.map_dropLast]
      next => rfl
    · have hlower : c.toLower ≠ '{' := fun h =>
        hc ((toLower_eq_iff (Or.inr (Or.inl rfl)) c).mp h)
      have hnone : ∀ {c : Char} (cs : List Char), c ≠ '{' → insideBraces? (c :: cs) = none := by
        intro c cs hc
        unfold insideBraces?
        split
        next h => cases h; exact absurd rfl hc
        next => rfl
      rw [List.map_cons, hnone _ hlower, hnone _ hc]
      rfl

theorem afterUrn?_map_toLower (cs : List Char) :
    afterUrn? (cs.map Char.toLower) = (afterUrn? cs).map (List.map Char.toLower) := by
  rw [afterUrn?, afterUrn?, ← List.map_take, map_toLower_map_toLower]
  split
  next => rw [Option.map_some, List.map_drop]
  next => rfl

theorem bind_ofHyphenated?_map (o : Option (List Char)) :
    (o.map (List.map Char.toLower)).bind ofHyphenated? = o.bind ofHyphenated? := by
  cases o with
  | none => rfl
  | some cs => exact ofHyphenated?_map_toLower cs

/-- A text spells the same identifier in small letters. -/
theorem ofChars?_map_toLower (cs : List Char) : ofChars? (cs.map Char.toLower) = ofChars? cs := by
  rw [ofChars?, ofChars?, ofDigits?_map_toLower, ofHyphenated?_map_toLower,
    insideBraces?_map_toLower, afterUrn?_map_toLower, bind_ofHyphenated?_map,
    bind_ofHyphenated?_map]

end Uuid

namespace Id

open Text

variable {kind : IdKind}

/-- What is written is read back. -/
theorem read_text (a : Id kind) : Id.read a.text = .ok a := by
  rw [Id.read, text, Uuid.trim_text, Uuid.read_text]

/-- An id can be told from its text. -/
theorem text_inj {a b : Id kind} (h : a.text = b.text) : a = b :=
  Except.ok.inj ((read_text a).symm.trans ((congrArg Id.read h).trans (read_text b)))

/-- An id is read from a trimmed text. -/
theorem read_eq_ok_iff {s : String} {a : Id kind} :
    Id.read s = .ok a ↔ Uuid.ofChars? (trim s).toList = some a.uuid := by
  rw [Id.read, Uuid.read]
  cases Uuid.ofChars? (trim s).toList with
  | none => exact ⟨nofun, nofun⟩
  | some u =>
    rw [Option.some_inj]
    exact ⟨fun h => by cases h; rfl, fun h => by rw [h]⟩

/-- Texts that differ in letter case and in white space around them spell the same id. -/
theorem read_eq_ok_of_lower {s t : String} (h : lower (trim s) = lower (trim t)) {a : Id kind}
    (ha : Id.read s = .ok a) : Id.read t = .ok a := by
  have hchars : (trim s).toList.map Char.toLower = (trim t).toList.map Char.toLower :=
    String.ofList_injective h
  rw [read_eq_ok_iff, ← Uuid.ofChars?_map_toLower] at ha ⊢
  rw [← hchars, ha]

end Id

end Rolebook
