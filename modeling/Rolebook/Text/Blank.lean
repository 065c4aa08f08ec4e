/-!
# White space

A text is trimmed by dropping the white space at both of its ends. White space is what the Unicode
property `White_Space` says it is, so the zero-width space and the byte order mark are kept.

`trim_trim` says that trimming is done in one go, and `NonBlank` is the type of the texts that are
not empty once trimmed: names are of that type, so a blank name cannot be stored.
-/

namespace Rolebook.Text

/-- The Unicode property `White_Space`. -/
def isBlank (c : Char) : Bool :=
  let n := c.toNat
  (9 ≤ n && n ≤ 13) || n == 0x20 || n == 0x85 || n == 0xA0 || n == 0x1680
    || (0x2000 ≤ n && n ≤ 0x200A) || n == 0x2028 || n == 0x2029 || n == 0x202F
    || n == 0x205F || n == 0x3000

/-- No character of ASCII that is seen is white space. -/
theorem isBlank_of_visible {c : Char} (hlow : 33 ≤ c.toNat) (hhigh : c.toNat ≤ 126) :
    isBlank c = false := by
  simp only [isBlank, Bool.or_eq_false_iff, Bool.and_eq_false_iff, beq_eq_false_iff_ne,
    decide_eq_false_iff_not]
  omega

/-- The characters after the white space that `cs` starts with. -/
def trimStartList (cs : List Char) : List Char :=
  cs.dropWhile isBlank

/-- The characters before the white space that `cs` ends with. -/
def trimEndList (cs : List Char) : List Char :=
  (cs.reverse.dropWhile isBlank).reverse

/-- `cs` without the white space at its ends. -/
def trimList (cs : List Char) : List Char :=
  trimEndList (trimStartList cs)

/-- `s` without the white space at its ends. -/
def trim (s : String) : String :=
  String.ofList (trimList s.toList)

theorem toList_trim (s : String) : (trim s).toList = trimList s.toList := by
  simp [trim]

/-- What is left of a list by `dropWhile` starts with no dropped element. -/
theorem dropWhile_dropWhile_self {α : Type} (p : α → Bool) (xs : List α) :
    (xs.dropWhile p).dropWhile p = xs.dropWhile p := by
  induction xs with
  | nil => rfl
  | cons x xs ih =>
    cases h : p x with
    | true => simp [h, ih]
    | false => simp [h]

/-- Dropping at the end keeps the first element unless everything goes. -/
theorem trimStartList_trimEndList (cs : List Char) (h : trimStartList cs = cs) :
    trimStartList (trimEndList cs) = trimEndList cs := by
  cases cs with
  | nil => rfl
  | cons c rest =>
    have hc : isBlank c = false := by
      cases hb : isBlank c with
      | false => rfl
      | true =>
        have hlen := congrArg List.length h
        simp only [trimStartList, List.dropWhile_cons, hb, if_true, List.length_cons] at hlen
        have := (List.dropWhile_sublist isBlank (l := rest)).length_le
        omega
    have : trimEndList (c :: rest) = c :: trimEndList rest := by
      simp only [trimEndList, List.reverse_cons]
      rw [List.dropWhile_append]
      cases he : (rest.reverse.dropWhile isBlank).isEmpty with
      | true =>
        have hnil : rest.reverse.dropWhile isBlank = [] := by simpa using he
        simp [hc, hnil]
      | false => simp
    rw [this]
    simp [trimStartList, hc]

/-- There is no white space left to take off a trimmed text. -/
theorem trimList_trimList (cs : List Char) : trimList (trimList cs) = trimList cs := by
  have hs : trimStartList (trimList cs) = trimList cs :=
    trimStartList_trimEndList _ (dropWhile_dropWhile_self isBlank cs)
  have he : trimEndList (trimList cs) = trimList cs := by
    simp [trimList, trimEndList, dropWhile_dropWhile_self]
  calc trimList (trimList cs)
      = trimEndList (trimStartList (trimList cs)) := rfl
    _ = trimList cs := by rw [hs, he]

/-- Trimming a trimmed text changes nothing. -/
theorem trim_trim (s : String) : trim (trim s) = trim s := by
  simp only [trim, String.toList_ofList, trimList_trimList]

end Rolebook.Text

namespace Rolebook

/-- A text with no white space at its ends and something in between. -/
structure NonBlank where
  text : String
  trimmed : Text.trim text = text
  ne_empty : text ≠ ""
  deriving DecidableEq

namespace NonBlank

/-- `s` trimmed, or nothing when `s` is blank. -/
def ofText? (s : String) : Option NonBlank :=
  if h : Text.trim s = "" then none else some ⟨Text.trim s, Text.trim_trim s, h⟩

/-- An optional text trimmed, absent when it is blank. -/
def ofOption (o : Option String) : Option NonBlank :=
  o.bind ofText?

@[ext] theorem ext {a b : NonBlank} (h : a.text = b.text) : a = b := by
  cases a; cases b; cases h; rfl

/-- A text of the type is read back as itself. -/
theorem ofText?_text (a : NonBlank) : ofText? a.text = some a := by
  have h : Text.trim a.text ≠ "" := by rw [a.trimmed]; exact a.ne_empty
  rw [ofText?, dif_neg h]
  exact congrArg some (ext a.trimmed)

/-- Only blank texts are refused. -/
theorem ofText?_eq_none_iff (s : String) : ofText? s = none ↔ Text.trim s = "" := by
  unfold ofText?
  split <;> simp_all

/-- What is kept of a text is the text without the white space around it. -/
theorem text_of_ofText? {s : String} {a : NonBlank} (h : ofText? s = some a) :
    a.text = Text.trim s := by
  unfold ofText? at h
  split at h
  · cases h
  · cases h; rfl

end NonBlank

end Rolebook
