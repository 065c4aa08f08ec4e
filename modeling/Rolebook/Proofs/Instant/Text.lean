import Rolebook.Instant.Reader
import Rolebook.Proofs.Text.Decimal

/-!
# Instants written and read

Instants are read with some freedom and written in one way. Here the reader meets what was written:
each part takes its own digits and leaves the rest, and no digit of a fraction is lost that was not
zero. A leap second has a number of its own in the text if it ends its minute, and is the ordinary
second of its number in the text if it does not. So the text of an instant spells that instant, in
whatever year it lies, up to the leap seconds that the text cannot tell (`read?_text`), and what is
read from a text has no such leap second (`endsMinute_of_read?`).
-/

namespace Rolebook.Instant

open Text (Undigited EndsAt decimalDigits isDigit isBlank trimStartList takeNumber?)

/-! ## Numbers -/

/-- No digit is taken off as white space. -/
theorem isBlank_of_isDigit {c : Char} (h : isDigit c = true) : isBlank c = false := by
  obtain ⟨hlow, hhigh⟩ := Bool.and_eq_true_iff.mp h
  have hlow : 48 ≤ c.toNat := of_decide_eq_true hlow
  have hhigh : c.toNat ≤ 57 := of_decide_eq_true hhigh
  exact Text.isBlank_of_visible (by omega) (by omega)

/-- Digits are there, and the first of them is no white space. -/
theorem exists_decimalDigits {n : Nat} (hn : 0 < n) (v : Nat) :
    ∃ c cs, decimalDigits n v = c :: cs ∧ isDigit c = true := by
  have hlength := Text.length_decimalDigits n v
  cases hd : decimalDigits n v with
  | nil => rw [hd] at hlength; exact absurd hlength (Nat.ne_of_lt hn)
  | cons c cs =>
    have hmem : c ∈ decimalDigits n v := hd ▸ List.mem_cons_self ..
    exact ⟨c, cs, rfl, Text.isDigit_of_mem_decimalDigits hmem⟩

/-- The digits of a number are read from the first, since none is white space. -/
theorem trimStartList_decimalDigits {n : Nat} (hn : 0 < n) (v : Nat) (rest : List Char) :
    trimStartList (decimalDigits n v ++ rest) = decimalDigits n v ++ rest := by
  obtain ⟨c, cs, hd, hc⟩ := exists_decimalDigits hn v
  rw [hd, trimStartList, List.cons_append, List.dropWhile_cons, isBlank_of_isDigit hc]
  rfl

/-- A number is read back from its digits, if they end where the number does. -/
theorem number?_decimalDigits {limit n v : Nat} {rest : List Char} (hn : 0 < n) (hv : v < 10 ^ n)
    (hend : EndsAt limit (decimalDigits n v) rest) :
    number? limit (decimalDigits n v ++ rest) = some (v, rest) := by
  rw [number?, trimStartList_decimalDigits hn, Text.takeNumber?_decimalDigits hn hv hend]

/-- Two digits are read whatever follows them. -/
theorem numberIn?_twoDigits {least most v : Nat} (hleast : least ≤ v) (hmost : v ≤ most)
    (hv : v < 100) (rest : List Char) :
    numberIn? least most (decimalDigits 2 v ++ rest) = some (v, rest) := by
  have hread : number? 2 (decimalDigits 2 v ++ rest) = some (v, rest) :=
    number?_decimalDigits (by decide) hv (Or.inl (Text.length_decimalDigits 2 v))
  rw [numberIn?, hread, Option.bind_some]
  exact if_pos ⟨hleast, hmost⟩

theorem mark?_cons (c : Char) (h : isBlank c = false) (rest : List Char) :
    mark? c (c :: rest) = some rest := by
  rw [mark?, trimStartList, List.dropWhile_cons, h]
  exact if_pos rfl

/-! ## Dates -/

/-- A year that starts with a digit has no sign. -/
theorem year?_of_isDigit {c : Char} (h : isDigit c = true) (cs : List Char) :
    year? (c :: cs) = (takeNumber? 4 (c :: cs)).map fun (n, rest) => ((n : Int), rest) := by
  have htrim : trimStartList (c :: cs) = c :: cs := by
    rw [trimStartList, List.dropWhile_cons, isBlank_of_isDigit h]
    rfl
  unfold year?
  rw [htrim]
  split
  next heq => cases heq; cases h
  next heq => cases heq; cases h
  next => rfl

theorem year?_minus (cs : List Char) :
    year? ('-' :: cs) = (takeNumber? cs.length cs).map fun (n, rest) => (-(n : Int), rest) := rfl

theorem year?_plus (cs : List Char) :
    year? ('+' :: cs) = (takeNumber? cs.length cs).map fun (n, rest) => ((n : Int), rest) := rfl

/-- All digits of a number are read, up to what is no digit. -/
theorem takeNumber?_length {n v : Nat} (hn : 0 < n) (hv : v < 10 ^ n) {rest : List Char}
    (h : Undigited rest) :
    takeNumber? (decimalDigits n v ++ rest).length (decimalDigits n v ++ rest)
      = some (v, rest) := by
  refine Text.takeNumber?_decimalDigits hn hv (Or.inr ⟨?_, h⟩)
  rw [List.length_append]
  exact Nat.le_add_right _ _

/-- A year is read back, with a sign or without. -/
theorem year?_yearChars (year : Int) {rest : List Char} (h : Undigited rest) :
    year? (yearChars year ++ rest) = some (year, rest) := by
  unfold yearChars
  split
  next hshort =>
    have hv : year.toNat < 10 ^ 4 := by omega
    have hread : takeNumber? 4 (decimalDigits 4 year.toNat ++ rest) = some (year.toNat, rest) :=
      Text.takeNumber?_decimalDigits (by decide) hv (Or.inl (Text.length_decimalDigits 4 _))
    obtain ⟨c, cs, hd, hc⟩ := exists_decimalDigits (by decide : 0 < 4) year.toNat
    rw [hd, List.cons_append] at hread ⊢
    rw [year?_of_isDigit hc, hread]
    show some ((year.toNat : Int), rest) = _
    rw [Int.toNat_of_nonneg hshort.1]
  next =>
    have hv : year.natAbs < 10 ^ max 4 (toString year.natAbs).length :=
      Nat.lt_of_lt_of_le (Text.lt_pow_length_toString _)
        (Nat.pow_le_pow_right (by decide) (Nat.le_max_right ..))
    have hread := takeNumber?_length (by omega) hv h
    by_cases hneg : year < 0
    · have hsign : -(year.natAbs : Int) = year := by omega
      rw [if_pos hneg, List.cons_append, year?_minus, hread]
      show some (-(year.natAbs : Int), rest) = _
      rw [hsign]
    · have hsign : (year.natAbs : Int) = year := by omega
      rw [if_neg hneg, List.cons_append, year?_plus, hread]
      show some ((year.natAbs : Int), rest) = _
      rw [hsign]

/-- A date as it is written. -/
def dateChars (d : Date) : List Char :=
  yearChars d.year ++ '-' :: decimalDigits 2 d.month ++ '-' :: decimalDigits 2 d.day

/-- A date is read back. -/
theorem date?_dateChars {d : Date} (h : d.Exists) (rest : List Char) :
    date? (dateChars d ++ rest) = some (d, rest) := by
  have ⟨_, _, hmonth, hmonth', hday, hday'⟩ := h
  have hdays : Date.daysIn d.year d.month ≤ 31 := by
    unfold Date.daysIn
    split
    · split <;> decide
    · split <;> decide
  have hhyphen : ∀ cs, Undigited ('-' :: cs) := fun _ => Text.undigited_cons rfl
  have hmonth := numberIn?_twoDigits hmonth hmonth' (by omega)
  have hday := numberIn?_twoDigits hday (Nat.le_trans hday' hdays) (by omega)
  have hexisting : Date.existing? d = some d := if_pos h
  simp only [dateChars, List.append_assoc, List.cons_append, date?, year?_yearChars _ (hhyphen _),
    mark?_cons '-' rfl, hmonth, hday, Option.bind_eq_bind, Option.bind_some, hexisting,
    Option.pure_def]

/-! ## Leap seconds -/

/-- If the instant is in a leap second, it is one at the end of a minute. -/
def EndsMinute (t : Instant) : Prop := t.nano < 1000000000 ∨ t.second % 60 = 59

instance (t : Instant) : Decidable t.EndsMinute := inferInstanceAs (Decidable (_ ∨ _))

/-- The instant that a text tells: a leap second inside a minute is told as the second after it. -/
def asWritten (t : Instant) : Instant :=
  if h : t.EndsMinute then t
  else
    { t with
      second := t.second + 1
      nano := t.nano - 1000000000
      second_lt := by
        have hsecond := t.second_lt
        unfold EndsMinute at h
        omega
      nano_lt := Nat.lt_of_le_of_lt (Nat.sub_le ..) t.nano_lt }

theorem date_asWritten (t : Instant) : t.asWritten.date = t.date := by
  unfold asWritten
  split <;> rfl

/-- A leap second inside a minute is written as the second after it. -/
theorem second_asWritten {t : Instant} (h : ¬ t.EndsMinute) : t.asWritten.second = t.second + 1 := by
  rw [asWritten, dif_neg h]

/-- A leap second inside a minute keeps its fraction when it is written. -/
theorem nano_asWritten {t : Instant} (h : ¬ t.EndsMinute) :
    t.asWritten.nano = t.nano - 1000000000 := by
  rw [asWritten, dif_neg h]

/-- What is written can always be read back as it is. -/
theorem endsMinute_asWritten (t : Instant) : t.asWritten.EndsMinute := by
  by_cases h : t.EndsMinute
  · rwa [asWritten, dif_pos h]
  · have hnano := t.nano_lt
    refine Or.inl ?_
    rw [nano_asWritten h]
    omega

/-- The text tells the instant just if there is no leap second inside a minute. -/
theorem asWritten_eq_self_iff {t : Instant} : t.asWritten = t ↔ t.EndsMinute :=
  ⟨fun h => h ▸ t.endsMinute_asWritten, fun h => dif_pos h⟩

/-! ## Times -/

/-- A fraction is read back in nanoseconds, whatever the count of its digits. -/
theorem fraction?_decimalDigits {n v : Nat} (hn : 0 < n) (hn' : n ≤ 9) (hv : v < 10 ^ n)
    {rest : List Char} (h : Undigited rest) :
    fraction? ('.' :: (decimalDigits n v ++ rest)) = some (v * 10 ^ (9 - n), rest) := by
  have hlength := Text.length_decimalDigits n v
  have hspan : Text.spanDigits 9 (decimalDigits n v ++ rest) = (decimalDigits n v, rest) :=
    Text.spanDigits_append (fun _ hc => Text.isDigit_of_mem_decimalDigits hc)
      (Or.inr ⟨Nat.le_trans (Nat.le_of_eq hlength) hn', h⟩)
  have hrest : rest.dropWhile isDigit = rest := by
    cases rest with
    | nil => rfl
    | cons c rest => rw [List.dropWhile_cons, h c rfl]; rfl
  have hvalue : Text.decimalValue 0 (decimalDigits n v) = v := by
    rw [Text.decimalValue_decimalDigits, Nat.mod_eq_of_lt hv]
  simp only [fraction?, hspan]
  cases hd : decimalDigits n v with
  | nil => rw [hd] at hlength; exact absurd hlength (Nat.ne_of_lt hn)
  | cons c cs =>
    dsimp only
    rw [← hd, hvalue, hlength, hrest]
    rfl

/-- The digits that are left out are zeros. -/
theorem fraction?_fractionChars {nano : Nat} (hnano : nano < 1000000000) {rest : List Char}
    (h : Undigited rest) (hpoint : rest.head? ≠ some '.') :
    fraction? (fractionChars nano ++ rest) = some (nano, rest) := by
  have hread : ∀ n, 0 < n → n ≤ 9 → nano % 10 ^ (9 - n) = 0 →
      fraction? ('.' :: (decimalDigits n (nano / 10 ^ (9 - n)) ++ rest)) = some (nano, rest) := by
    intro n hn hn' hmod
    have hlt : nano / 10 ^ (9 - n) < 10 ^ n := by
      rw [Nat.div_lt_iff_lt_mul (Nat.pow_pos (by decide)), ← Nat.pow_add, Nat.add_sub_cancel' hn']
      exact hnano
    rw [fraction?_decimalDigits hn hn' hlt h, Nat.div_mul_cancel (Nat.dvd_of_mod_eq_zero hmod)]
  unfold fractionChars
  split
  next hzero =>
    subst hzero
    unfold fraction?
    split
    next heq => exact absurd (congrArg List.head? heq) hpoint
    next => rfl
  next =>
    split
    next hmod => exact hread 3 (by decide) (by decide) hmod
    next =>
      split
      next hmod => exact hread 6 (by decide) (by decide) hmod
      next =>
        have h9 := hread 9 (by decide) (by decide) (Nat.mod_one nano)
        rwa [Nat.sub_self, Nat.pow_zero, Nat.div_one] at h9

/-- The time of an instant as it is written. -/
def timeChars (t : Instant) : List Char :=
  decimalDigits 2 (t.second / 3600) ++ ':' :: decimalDigits 2 (t.second / 60 % 60)
    ++ ':' :: decimalDigits 2 t.writtenSecond ++ fractionChars (t.nano % 1000000000)

/-- A time of the day is read back as it was written. -/
theorem time?_timeChars (t : Instant) {rest : List Char} (h : Undigited rest)
    (hpoint : rest.head? ≠ some '.') :
    time? (timeChars t ++ rest) = some (t.asWritten.second, t.asWritten.nano, rest) := by
  have hsecond := t.second_lt
  have hnano := t.nano_lt
  have hwritten : t.writtenSecond = t.second % 60 + t.nano / 1000000000 := rfl
  have hhour := numberIn?_twoDigits (Nat.zero_le (t.second / 3600)) (by omega : _ ≤ 23) (by omega)
  have hminute :=
    numberIn?_twoDigits (Nat.zero_le (t.second / 60 % 60)) (by omega : _ ≤ 59) (by omega)
  have hwhole := numberIn?_twoDigits (Nat.zero_le t.writtenSecond) (by omega : _ ≤ 60) (by omega)
  have hfraction := fraction?_fractionChars (Nat.mod_lt t.nano (by decide)) h hpoint
  simp only [timeChars, List.append_assoc, List.cons_append, time?, mark?_cons ':' rfl, hhour,
    hminute, hwhole, hfraction, Option.bind_eq_bind, Option.bind_some, Option.pure_def]
  by_cases hends : t.EndsMinute
  · rw [asWritten_eq_self_iff.mpr hends]
    unfold EndsMinute at hends
    split
    next hleap =>
      have hs : t.second / 3600 * 3600 + t.second / 60 % 60 * 60 + 59 = t.second := by omega
      have hn : t.nano % 1000000000 + 1000000000 = t.nano := by omega
      rw [hs, hn]
    next hplain =>
      have hs : t.second / 3600 * 3600 + t.second / 60 % 60 * 60 + t.writtenSecond = t.second := by
        omega
      have hn : t.nano % 1000000000 = t.nano := by omega
      rw [hs, hn]
  · rw [second_asWritten hends, nano_asWritten hends]
    unfold EndsMinute at hends
    -- the leap second has the number of the next one, which is not 60
    have hplain : t.writtenSecond ≠ 60 := by omega
    have hs : t.second / 3600 * 3600 + t.second / 60 % 60 * 60 + t.writtenSecond = t.second + 1 := by
      omega
    have hn : t.nano % 1000000000 = t.nano - 1000000000 := by omega
    rw [if_neg hplain, hs, hn]

/-! ## What can be read -/

/-- A fraction is less than a second. -/
theorem fraction?_lt {cs rest : List Char} {nano : Nat} (h : fraction? cs = some (nano, rest)) :
    nano < 1000000000 := by
  unfold fraction? at h
  split at h
  next cs =>
    obtain ⟨hlength, hdigits⟩ := Text.spanDigits_digits 9 cs
    split at h
    next => cases h
    next ds _ _ hspan =>
      rw [hspan] at hlength hdigits
      cases h
      have hvalue := Text.decimalValue_lt hdigits 0
      rw [Nat.zero_add, Nat.one_mul] at hvalue
      calc Text.decimalValue 0 ds * 10 ^ (9 - ds.length)
          < 10 ^ ds.length * 10 ^ (9 - ds.length) :=
            Nat.mul_lt_mul_of_pos_right hvalue (Nat.pow_pos (by decide))
        _ = 10 ^ 9 := by rw [← Nat.pow_add, Nat.add_sub_cancel' hlength]
  next =>
    cases h
    decide

/-- A leap second is read only at the end of a minute. -/
theorem time?_endsMinute {cs rest : List Char} {second nano : Nat}
    (h : time? cs = some (second, nano, rest)) : nano < 1000000000 ∨ second % 60 = 59 := by
  simp only [time?, Option.bind_eq_bind, Option.bind_eq_some_iff, Option.pure_def, Prod.exists] at h
  obtain ⟨hour, _, -, _, -, minute, _, -, _, -, whole, _, -, fraction, _, hfraction, h⟩ := h
  split at h
  next =>
    cases h
    exact Or.inr (by omega)
  next =>
    cases h
    exact Or.inl (fraction?_lt hfraction)

/-- Offsets are whole minutes. -/
theorem sixty_dvd_signedOffset? {sign offset : Int} {cs rest : List Char}
    (h : signedOffset? sign cs = some (offset, rest)) : 60 ∣ offset := by
  unfold signedOffset? at h
  split at h
  next h1 h2 cs =>
    split at h
    next =>
      split at h
      next =>
        split at h
        next =>
          cases h
          exact Int.dvd_mul_of_dvd_right (by omega)
        next => cases h
      next => cases h
    next => cases h
  next => cases h

/-- Local time is ahead of UTC by whole minutes. -/
theorem sixty_dvd_offset? {offset : Int} {cs rest : List Char}
    (h : offset? cs = some (offset, rest)) : 60 ∣ offset := by
  unfold offset? at h
  split at h
  next => cases h; exact Int.dvd_zero _
  next => cases h; exact Int.dvd_zero _
  next => exact sixty_dvd_signedOffset? h
  next => exact sixty_dvd_signedOffset? h
  next => exact sixty_dvd_signedOffset? h
  next =>
    split at h
    next => cases h; exact Int.dvd_zero _
    next => cases h

/-- A move by whole minutes leaves a leap second where it is in its minute. -/
theorem endsMinute_of_ofLocal? {date : Date} {second nano : Nat} {offset : Int} {t : Instant}
    (hends : nano < 1000000000 ∨ second % 60 = 59) (hoffset : 60 ∣ offset)
    (h : ofLocal? date second nano offset = some t) : t.EndsMinute := by
  unfold ofLocal? at h
  obtain ⟨day, -, h⟩ := Option.bind_eq_some_iff.mp h
  dsimp only at h
  split at h
  next =>
    cases h
    rcases hends with hnano | hsecond
    · exact Or.inl hnano
    · exact Or.inr (by dsimp only; omega)
  next => cases h

/-- What is read has no leap second inside a minute. -/
theorem endsMinute_of_read? {s : String} {t : Instant} (h : read? s = some t) : t.EndsMinute := by
  unfold read? ofChars? at h
  simp only [Option.bind_eq_bind, Option.bind_eq_some_iff, Prod.exists] at h
  obtain ⟨date, _, -, _, -, second, nano, _, htime, offset, _, hoffset, h⟩ := h
  split at h
  next => exact endsMinute_of_ofLocal? (time?_endsMinute htime) (sixty_dvd_offset? hoffset) h
  next => cases h

/-! ## Instants -/

/-- No time zone, no move. -/
theorem ofLocal?_utc (t : Instant) : ofLocal? t.date t.second t.nano 0 = some t := by
  have hsecond := t.second_lt
  have hutc : ((t.second : Int) - 0) % 86400 = t.second := by omega
  unfold ofLocal?
  simp only [hutc, Int.toNat_natCast]
  rw [if_neg (by omega), if_pos (by omega), Option.bind_some,
    dif_pos ⟨t.date_exists, t.nano_lt, by omega, by omega⟩]

/-- The text of an instant is that of its date and that of its time. -/
theorem chars_eq (t : Instant) : t.chars = dateChars t.date ++ 'T' :: (timeChars t ++ ['Z']) := by
  simp only [chars, dateChars, timeChars, List.append_assoc, List.cons_append]

/-- A date, a time and a `Z` are read one after the other. -/
theorem ofChars?_chars (t : Instant) : ofChars? t.chars = some t.asWritten := by
  have htime : time? (timeChars t ++ ['Z']) = some (t.asWritten.second, t.asWritten.nano, ['Z']) :=
    time?_timeChars t (Text.undigited_cons rfl) (by decide)
  have hoffset : offset? ['Z'] = some (0, []) := rfl
  have hend : trimStartList [] = [] := rfl
  rw [chars_eq, ofChars?, date?_dateChars t.date_exists]
  show ((time? (timeChars t ++ ['Z'])).bind fun x => (offset? x.2.2).bind fun y =>
    if trimStartList y.2 = [] then ofLocal? t.date x.1 x.2.1 y.1 else none) = _
  rw [htime, Option.bind_some]
  dsimp only
  rw [hoffset, Option.bind_some, ← t.date_asWritten]
  exact (if_pos hend).trans (ofLocal?_utc t.asWritten)

/-- **Instants come back.** The text of an instant spells the instant that it tells. -/
theorem read?_text (t : Instant) : read? t.text = some t.asWritten := by
  rw [read?, text, String.toList_ofList, ofChars?_chars]

end Rolebook.Instant
