/-!
# Letter case

Case is folded for ASCII letters only: `É` and `é` stay different names. So what is said of a
character and its small letter is said of the 26 capital letters, and of characters that stay as
they are (`toLower_cases`).
-/

namespace Rolebook.Text

/-- `s` with its ASCII capital letters made small. -/
def lower (s : String) : String :=
  String.ofList (s.toList.map Char.toLower)

theorem lower_eq_empty_iff {s : String} : lower s = "" ↔ s = "" := by
  rw [lower, String.ofList_eq_empty_iff, List.map_eq_nil_iff, String.toList_eq_nil_iff]

/-- Whether two texts are equal up to the case of ASCII letters. -/
def sameLetters (s t : String) : Bool :=
  lower s == lower t

/-- Letter case aside, texts are compared in small letters. -/
theorem sameLetters_iff (s t : String) : sameLetters s t = true ↔ lower s = lower t := by
  simp [sameLetters]

/-! ## Single characters -/

theorem toLower_eq_self {c : Char} (h : c.isUpper = false) : c.toLower = c :=
  dif_neg (of_decide_eq_false h)

/-- There are 26 capital letters, and they stand in a row. -/
theorem eq_ofNat_of_isUpper {c : Char} (h : c.isUpper = true) :
    ∃ n < 26, c = Char.ofNat (65 + n) := by
  obtain ⟨hlow, hhigh⟩ : 65 ≤ c.toNat ∧ c.toNat ≤ 90 := of_decide_eq_true h
  exact ⟨c.toNat - 65, by omega, by rw [Nat.add_sub_cancel' hlow, Char.ofNat_toNat]⟩

/-- A character is its own small letter, or one of the 26 capital letters. -/
theorem toLower_cases {p : Char → Char → Prop} (hsame : ∀ c : Char, c.isUpper = false → p c c)
    (hupper : ∀ n < 26, p (Char.ofNat (65 + n)).toLower (Char.ofNat (65 + n))) (c : Char) :
    p c.toLower c := by
  cases h : c.isUpper with
  | false =>
    rw [toLower_eq_self h]
    exact hsame c h
  | true =>
    obtain ⟨n, hn, rfl⟩ := eq_ofNat_of_isUpper h
    exact hupper n hn

/-- Small letters are small already. -/
theorem toLower_toLower : ∀ c : Char, c.toLower.toLower = c.toLower :=
  toLower_cases (p := fun d _ => d.toLower = d) (fun _ => toLower_eq_self) (by decide)

end Rolebook.Text
