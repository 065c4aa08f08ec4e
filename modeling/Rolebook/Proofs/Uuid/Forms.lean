import Mathlib.Data.List.Induction
import Rolebook.Proofs.Uuid.Spelling

/-!
# The four forms of an identifier

`Uuid.Spells` says which texts spell an identifier, by what may be written and not by how it is
read: the 32 digits in letters of either case, alone, with hyphens, with hyphens in braces, or with
hyphens after `urn:uuid:`. The reader accepts just these, each as the identifier that it spells
(`ofChars?_eq_some_iff`). The forms differ in length, so no text can be taken for another form than
its own.
-/

namespace Rolebook

namespace Text

/-! ## Digits of either case -/

/-- Digits are ASCII characters. -/
theorem toNat_lt_of_hexValue? {c : Char} {d : Nat} (h : hexValue? c = some d) : c.toNat < 103 := by
  have hcode : ∀ {hi : Char}, c ≤ hi → c.toNat ≤ hi.toNat := fun hc => hc
  unfold hexValue? at h
  split at h
  next hc => exact Nat.lt_of_le_of_lt (hcode hc.2) (by decide)
  next =>
    split at h
    next hc => exact Nat.lt_of_le_of_lt (hcode hc.2) (by decide)
    next =>
      split at h
      next hc => exact Nat.lt_of_le_of_lt (hcode hc.2) (by decide)
      next => cases h

/-- A digit of either case is, made small, the one that is written for its value. -/
theorem toLower_of_hexValue? {c : Char} {d : Nat} (h : hexValue? c = some d) :
    c.toLower = hexChar d := by
  have hall : ∀ n < 103, ∀ d < 16, hexValue? (Char.ofNat n) = some d →
      (Char.ofNat n).toLower = hexChar d := by decide
  have hc := hall c.toNat (toNat_lt_of_hexValue? h) d (hexValue?_lt h)
  rw [Char.ofNat_toNat] at hc
  exact hc h

/-- A number is spelt by its own digits only, in either case. -/
theorem map_toLower_of_hexNumber? {cs : List Char} {v : Nat} (h : hexNumber? 0 cs = some v) :
    cs.map Char.toLower = (hexDigits cs.length v).map hexChar := by
  induction cs using List.reverseRecOn generalizing v with
  | nil => rfl
  | append_singleton cs c ih =>
    rw [hexNumber?_append] at h
    obtain ⟨w, hw, hc⟩ := Option.bind_eq_some_iff.mp h
    obtain ⟨d, hd, hv⟩ := Option.map_eq_some_iff.mp hc
    have hlt : d < 16 := hexValue?_lt hd
    have hdiv : v / 16 = w := by omega
    have hmod : v % 16 = d := by omega
    rw [List.map_append, List.length_append, List.length_singleton, hexDigits, List.map_append,
      hdiv, hmod, ih hw, List.map_singleton, List.map_singleton, toLower_of_hexValue? hd]

end Text

namespace Uuid

open Text

/-- The 32 digits of an identifier, each in either case. -/
def Digits (u : Uuid) (cs : List Char) : Prop :=
  cs.map Char.toLower = (hexDigits 32 u.toNat).map hexChar

/-- The texts that spell an identifier. -/
inductive Spells (u : Uuid) : List Char → Prop where
  | plain {digits : List Char} (h : u.Digits digits) : Spells u digits
  | hyphenated {digits : List Char} (h : u.Digits digits) : Spells u (hyphenate digits)
  | braced {digits : List Char} (h : u.Digits digits) :
      Spells u ('{' :: (hyphenate digits ++ ['}']))
  | urn {start digits : List Char} (hstart : start.map Char.toLower = "urn:uuid:".toList)
      (h : u.Digits digits) : Spells u (start ++ hyphenate digits)

variable {u : Uuid} {cs inner digits : List Char}

theorem Digits.length_eq (h : u.Digits digits) : digits.length = 32 := by
  have hlength := congrArg List.length h
  rwa [List.length_map, List.length_map, length_hexDigits] at hlength

/-- 32 digits are read just as the number they spell. -/
theorem ofDigits?_iff : ofDigits? cs = some u ↔ u.Digits cs := by
  rw [ofDigits?_eq_some_iff]
  constructor
  · rintro ⟨hlength, hnumber⟩
    unfold Digits
    rw [map_toLower_of_hexNumber? hnumber, hlength]
  · intro h
    refine ⟨h.length_eq, ?_⟩
    have hsmall : u.toNat < 16 ^ 32 := u.isLt
    rw [← hexNumber?_map_toLower, show cs.map Char.toLower = _ from h, hexNumber?_hexDigits,
      Nat.mod_eq_of_lt hsmall]

/-! ## Hyphens -/

/-- Four hyphens make 36 characters of 32. -/
theorem length_hyphenate (h : digits.length = 32) : (hyphenate digits).length = 36 := by
  simp [hyphenate, h]

theorem drop_of_getElem? {c : Char} {i : Nat} (h : cs[i]? = some c) :
    cs.drop i = c :: cs.drop (i + 1) := by
  obtain ⟨hi, hc⟩ := List.getElem?_eq_some_iff.mp h
  rw [List.drop_eq_getElem_cons hi, hc]

/-- Hyphens taken out and put back again. -/
theorem hyphenate_unhyphenate (hlength : cs.length = 36)
    (h : ∀ i ∈ hyphenPlaces, cs[i]? = some '-') : hyphenate (unhyphenate cs) = cs := by
  have hgroup : ∀ i, (cs.drop i).take 4 ++ cs.drop (i + 4) = cs.drop i := by
    intro i
    rw [← List.drop_drop, List.take_append_drop]
  have hhyphen : ∀ i ∈ hyphenPlaces, '-' :: cs.drop (i + 1) = cs.drop i :=
    fun i hi => (drop_of_getElem? (h i hi)).symm
  have hgroups : unhyphenate cs = cs.take 8 ++ ((cs.drop 9).take 4 ++ ((cs.drop 14).take 4
      ++ ((cs.drop 19).take 4 ++ cs.drop 24))) := by
    simp only [unhyphenate, List.append_assoc]
  rw [hgroups, hyphenate_groups (by simp [hlength]) (by simp [hlength]) (by simp [hlength])
    (by simp [hlength])]
  -- group by group, from the last one
  rw [hhyphen 23 (by decide), hgroup 19, hhyphen 18 (by decide), hgroup 14,
    hhyphen 13 (by decide), hgroup 9, hhyphen 8 (by decide), List.take_append_drop]

/-- The hyphenated form is read just as the digits in it. -/
theorem ofHyphenated?_iff :
    ofHyphenated? cs = some u ↔ ∃ digits, u.Digits digits ∧ cs = hyphenate digits := by
  constructor
  · intro h
    unfold ofHyphenated? at h
    split at h
    next hform =>
      exact ⟨unhyphenate cs, ofDigits?_iff.mp h, (hyphenate_unhyphenate hform.1 hform.2).symm⟩
    next => cases h
  · rintro ⟨digits, hdigits, rfl⟩
    rw [ofHyphenated?_hyphenate hdigits.length_eq]
    exact ofDigits?_iff.mpr hdigits

theorem length_of_ofHyphenated? (h : ofHyphenated? cs = some u) : cs.length = 36 := by
  obtain ⟨digits, hdigits, rfl⟩ := ofHyphenated?_iff.mp h
  exact length_hyphenate hdigits.length_eq

/-! ## What stands around the hyphenated form -/

/-- Braces are found just where they stand around a text. -/
theorem insideBraces?_iff : insideBraces? cs = some inner ↔ cs = '{' :: (inner ++ ['}']) := by
  constructor
  · intro h
    unfold insideBraces? at h
    split at h
    next rest =>
      split at h
      next hlast =>
        cases h
        rw [List.dropLast_append_getLast? '}' hlast]
      next => cases h
    next => cases h
  · rintro rfl
    simp [insideBraces?]

/-- The words of the URN form are nine letters and marks. -/
theorem length_urn {start : List Char} (h : start.map Char.toLower = "urn:uuid:".toList) :
    start.length = 9 := by
  have hlength := congrArg List.length h
  rwa [List.length_map] at hlength

/-- What is found after the URN words comes after them, in letters of whichever case. -/
theorem afterUrn?_iff : afterUrn? cs = some inner ↔
    ∃ start, start.map Char.toLower = "urn:uuid:".toList ∧ cs = start ++ inner := by
  constructor
  · intro h
    unfold afterUrn? at h
    split at h
    next hstart =>
      cases h
      exact ⟨cs.take 9, hstart, (List.take_append_drop 9 cs).symm⟩
    next => cases h
  · rintro ⟨start, hstart, rfl⟩
    have hlength := length_urn hstart
    rw [afterUrn?, List.take_left' hlength, if_pos hstart, List.drop_left' hlength]

/-- The braced form is read just as the digits in it. -/
theorem bind_insideBraces?_iff : (insideBraces? cs).bind ofHyphenated? = some u ↔
    ∃ digits, u.Digits digits ∧ cs = '{' :: (hyphenate digits ++ ['}']) := by
  rw [Option.bind_eq_some_iff]
  constructor
  · rintro ⟨inner, hinner, h⟩
    obtain ⟨digits, hdigits, rfl⟩ := ofHyphenated?_iff.mp h
    exact ⟨digits, hdigits, insideBraces?_iff.mp hinner⟩
  · rintro ⟨digits, hdigits, hcs⟩
    exact ⟨_, insideBraces?_iff.mpr hcs, ofHyphenated?_iff.mpr ⟨digits, hdigits, rfl⟩⟩

/-- The URN form is read just as the digits in it. -/
theorem bind_afterUrn?_iff : (afterUrn? cs).bind ofHyphenated? = some u ↔
    ∃ start digits, start.map Char.toLower = "urn:uuid:".toList ∧ u.Digits digits ∧
      cs = start ++ hyphenate digits := by
  rw [Option.bind_eq_some_iff]
  constructor
  · rintro ⟨inner, hinner, h⟩
    obtain ⟨digits, hdigits, rfl⟩ := ofHyphenated?_iff.mp h
    obtain ⟨start, hstart, hcs⟩ := afterUrn?_iff.mp hinner
    exact ⟨start, digits, hstart, hdigits, hcs⟩
  · rintro ⟨start, digits, hstart, hdigits, hcs⟩
    exact ⟨_, afterUrn?_iff.mpr ⟨start, hstart, hcs⟩, ofHyphenated?_iff.mpr ⟨digits, hdigits, rfl⟩⟩

/-! ## The reader -/

/-- What is not 32 characters long is not digits alone. The forms differ in length, so that a text
can only be of one of them. -/
theorem ofDigits?_eq_none (h : cs.length ≠ 32) : ofDigits? cs = none :=
  Option.eq_none_iff_forall_ne_some.mpr fun _ hu => h (ofDigits?_iff.mp hu).length_eq

/-- What is not 36 characters long is not hyphenated. -/
theorem ofHyphenated?_eq_none (h : cs.length ≠ 36) : ofHyphenated? cs = none :=
  Option.eq_none_iff_forall_ne_some.mpr fun _ hu => h (length_of_ofHyphenated? hu)

/-- What is not 38 characters long is not braced. -/
theorem bind_insideBraces?_eq_none (h : cs.length ≠ 38) :
    (insideBraces? cs).bind ofHyphenated? = none := by
  refine Option.eq_none_iff_forall_ne_some.mpr fun u hu => h ?_
  obtain ⟨digits, hdigits, rfl⟩ := bind_insideBraces?_iff.mp hu
  simp [length_hyphenate hdigits.length_eq]

/-- The texts that are read as an identifier are those that spell it. -/
theorem ofChars?_eq_some_iff : ofChars? cs = some u ↔ u.Spells cs := by
  constructor
  · intro h
    unfold ofChars? at h
    split at h
    next hplain =>
      cases h
      exact .plain (ofDigits?_iff.mp hplain)
    next =>
      split at h
      next hhyphenated =>
        cases h
        obtain ⟨digits, hdigits, rfl⟩ := ofHyphenated?_iff.mp hhyphenated
        exact .hyphenated hdigits
      next =>
        split at h
        next hbraced =>
          cases h
          obtain ⟨digits, hdigits, rfl⟩ := bind_insideBraces?_iff.mp hbraced
          exact .braced hdigits
        next =>
          obtain ⟨start, digits, hstart, hdigits, rfl⟩ := bind_afterUrn?_iff.mp h
          exact .urn hstart hdigits
  · intro h
    unfold ofChars?
    -- the forms tried before the right one have another length
    cases h with
    | plain hdigits => rw [ofDigits?_iff.mpr hdigits]
    | @hyphenated digits hdigits =>
      have hlength := length_hyphenate hdigits.length_eq
      rw [ofDigits?_eq_none (by omega), ofHyphenated?_iff.mpr ⟨digits, hdigits, rfl⟩]
    | @braced digits hdigits =>
      have hlength : ('{' :: (hyphenate digits ++ ['}'])).length = 38 := by
        simp [length_hyphenate hdigits.length_eq]
      rw [ofDigits?_eq_none (by omega), ofHyphenated?_eq_none (by omega),
        bind_insideBraces?_iff.mpr ⟨digits, hdigits, rfl⟩]
    | @urn start digits hstart hdigits =>
      have hlength : (start ++ hyphenate digits).length = 45 := by
        rw [List.length_append, length_urn hstart, length_hyphenate hdigits.length_eq]
      rw [ofDigits?_eq_none (by omega), ofHyphenated?_eq_none (by omega),
        bind_insideBraces?_eq_none (by omega)]
      exact bind_afterUrn?_iff.mpr ⟨start, digits, hstart, hdigits, rfl⟩

end Uuid

/-- An id is read from the texts that spell it, white space around them aside. -/
theorem Id.read_eq_ok_iff_spells {kind : IdKind} {s : String} {a : Id kind} :
    Id.read s = .ok a ↔ a.uuid.Spells (Text.trim s).toList :=
  Id.read_eq_ok_iff.trans Uuid.ofChars?_eq_some_iff

end Rolebook
