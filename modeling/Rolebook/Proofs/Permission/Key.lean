import Mathlib.Data.List.Basic
import Rolebook.Permission.Basic
import Rolebook.Proofs.Fallible
import Rolebook.Proofs.Text.Blank

/-!
# Keys of permissions

The key of a permission is its category and its action with a colon in between. Nothing in a text
tells such a colon from any other, so a key is only as good as the rule for categories: a text names
one when, trimmed, it is spelled with ASCII letters, digits and three marks, and the category is
that text in small letters (`Category.ofText_eq_ok_iff`). A category names itself
(`Category.ofText_text`), so this is so of each, however it came to be.

Hence the colon of a key is the only one in it (`Permission.count_key`), what is on either side of
it is read as the category and the action (`Permission.exists_parts`), and a key tells both of them
(`Permission.key_eq_iff`).
-/

namespace Rolebook

/-! ## Characters of a category -/

/-- Whether a category may be spelled with this character: an ASCII letter of either case, a digit,
or one of three marks. -/
def isSpellingChar (c : Char) : Bool :=
  c.isAlphanum || c == '_' || c == '-' || c == '.'

namespace Category

/-- The characters that a category may be spelled with are those that, made small, it may hold. -/
theorem isCategoryChar_toLower : ∀ c : Char, isCategoryChar c.toLower = isSpellingChar c := by
  refine Text.toLower_cases (p := fun d c => isCategoryChar d = isSpellingChar c) ?_ (by decide)
  intro c h
  have hspelling : isSpellingChar c
      = (c.isUpper || c.isLower || c.isDigit || c == '_' || c == '-' || c == '.') := rfl
  rw [hspelling, h, Bool.false_or]
  rfl

/-- The characters of a category, by their numbers. -/
theorem toNat_of_isCategoryChar {c : Char} (h : isCategoryChar c = true) :
    97 ≤ c.toNat ∧ c.toNat ≤ 122 ∨ 48 ≤ c.toNat ∧ c.toNat ≤ 57 ∨ c.toNat = 95 ∨ c.toNat = 45
      ∨ c.toNat = 46 := by
  have ord : ∀ {a b : Char}, a ≤ b → a.toNat ≤ b.toNat := fun h => h
  simp only [isCategoryChar, Bool.or_eq_true, Bool.and_eq_true, decide_eq_true_eq, beq_iff_eq] at h
  rcases h with (((h | h) | rfl) | rfl) | rfl
  · exact Or.inl ⟨ord h.1, ord h.2⟩
  · exact Or.inr (Or.inl ⟨ord h.1, ord h.2⟩)
  · exact Or.inr (Or.inr (Or.inl rfl))
  · exact Or.inr (Or.inr (Or.inr (Or.inl rfl)))
  · exact Or.inr (Or.inr (Or.inr (Or.inr rfl)))

/-- No character of a category is white space. -/
theorem isBlank_of_isCategoryChar {c : Char} (h : isCategoryChar c = true) :
    Text.isBlank c = false := by
  have hcode := toNat_of_isCategoryChar h
  exact Text.isBlank_of_visible (by omega) (by omega)

/-- No character of a category is a capital letter. -/
theorem toLower_of_isCategoryChar {c : Char} (h : isCategoryChar c = true) : c.toLower = c := by
  have hcode := toNat_of_isCategoryChar h
  refine Text.toLower_eq_self (decide_eq_false fun hupper => ?_)
  obtain ⟨hlow, hhigh⟩ : 65 ≤ c.toNat ∧ c.toNat ≤ 90 := hupper
  omega

/-- A category may be spelled with its own characters. -/
theorem isSpellingChar_of_isCategoryChar {c : Char} (h : isCategoryChar c = true) :
    isSpellingChar c = true := by
  rwa [← isCategoryChar_toLower, toLower_of_isCategoryChar h]

/-! ## Spellings of a category -/

/-- There is something in a text, and nothing that no category may be spelled with. -/
structure Spelling (s : String) : Prop where
  ne_empty : s ≠ ""
  chars : ∀ c ∈ s.toList, isSpellingChar c = true

variable {s : String} {c : Category} {v : Json}

/-- A text spells a category just if it is one in small letters. -/
theorem spelling_iff_lower :
    Spelling s ↔ Text.lower s ≠ "" ∧ (Text.lower s).toList.all isCategoryChar = true := by
  have hchars : (Text.lower s).toList.all isCategoryChar = s.toList.all isSpellingChar := by
    rw [Text.lower, String.toList_ofList, List.all_map]
    exact congrArg s.toList.all (funext isCategoryChar_toLower)
  rw [hchars, List.all_eq_true, ne_eq, Text.lower_eq_empty_iff]
  exact ⟨fun h => ⟨h.ne_empty, h.chars⟩, fun h => ⟨h.1, h.2⟩⟩

/-- A text names a category when it is a spelling of one with white space around it, and it names
the one that is spelled so in small letters. -/
theorem ofText_eq_ok_iff :
    ofText s = .ok c ↔ Spelling (Text.trim s) ∧ c.text = Text.lower (Text.trim s) := by
  rw [spelling_iff_lower]
  simp only [ofText]
  split
  next hempty => exact ⟨nofun, fun h => absurd hempty h.1.1⟩
  next hne =>
    split
    next hall =>
      constructor
      · intro h
        have htext := congrArg text (Except.ok.inj h)
        exact ⟨⟨hne, hall⟩, htext.symm⟩
      · rintro ⟨-, htext⟩
        exact congrArg Except.ok (ext htext.symm)
    next hnot =>
      -- whichever character is complained of
      refine ⟨fun h => ?_, fun h => absurd h.1.2 hnot⟩
      split at h <;> cases h

/-- Just the texts that spell a category when trimmed are taken. -/
theorem exists_ofText_iff : (∃ c, ofText s = .ok c) ↔ Spelling (Text.trim s) := by
  constructor
  · rintro ⟨c, h⟩
    exact (ofText_eq_ok_iff.mp h).1
  · intro h
    obtain ⟨hne, hall⟩ := spelling_iff_lower.mp h
    exact ⟨⟨_, hne, hall⟩, ofText_eq_ok_iff.mpr ⟨h, rfl⟩⟩

theorem isCategoryChar_of_mem (c : Category) : ∀ x ∈ c.text.toList, isCategoryChar x = true :=
  List.all_eq_true.mp c.allowed

/-- A category spells itself. -/
theorem spelling_text (c : Category) : Spelling c.text where
  ne_empty := c.ne_empty
  chars x hx := isSpellingChar_of_isCategoryChar (c.isCategoryChar_of_mem x hx)

/-- A category has no white space around it. -/
theorem trim_text (c : Category) : Text.trim c.text = c.text :=
  Text.trim_of_not_blank fun x hx => isBlank_of_isCategoryChar (c.isCategoryChar_of_mem x hx)

/-- A category is in small letters. -/
theorem lower_text (c : Category) : Text.lower c.text = c.text := by
  have hchars : c.text.toList.map Char.toLower = c.text.toList.map id :=
    List.map_congr_left fun x hx => toLower_of_isCategoryChar (c.isCategoryChar_of_mem x hx)
  rw [Text.lower, hchars, List.map_id, String.ofList_toList]

/-- A category names itself. -/
theorem ofText_text (c : Category) : ofText c.text = .ok c := by
  rw [ofText_eq_ok_iff, trim_text, lower_text]
  exact ⟨c.spelling_text, rfl⟩

/-- A JSON value is a category when it is a text that names the category. -/
theorem ofJson?_eq_some_iff : ofJson? v = some c ↔ ∃ s, v = .ofText s ∧ ofText s = .ok c := by
  simp only [ofJson?, Option.bind_eq_some_iff, Json.text?_eq_some_iff, toOption_eq_some_iff]

/-- No colon is among its characters. -/
theorem colon_not_mem (c : Category) : ':' ∉ c.text.toList := fun h =>
  absurd (c.isCategoryChar_of_mem _ h) (by decide)

end Category

/-! ## Words of an action -/

namespace Action

/-- An action is read back from its word. -/
theorem ofWord?_word (a : Action) : ofWord? a.word = some a := by
  cases a <;> decide

/-- The word of an action names the action. -/
theorem ofText_word (a : Action) : ofText a.word = .ok a := by
  have hword : Text.lower (Text.trim a.word) = a.word := by cases a <;> decide
  rw [ofText, hword, ofWord?_word]

/-- An action can be told from its word. -/
theorem word_inj {a b : Action} (h : a.word = b.word) : a = b := by
  have hread : ofWord? a.word = ofWord? b.word := by rw [h]
  rw [ofWord?_word, ofWord?_word] at hread
  exact Option.some.inj hread

theorem colon_not_mem (a : Action) : ':' ∉ a.word.toList := by
  cases a <;> decide

end Action

/-! ## Keys -/

namespace Permission

variable {p q : Permission}

theorem key_eq (p : Permission) : p.key = p.resource.text ++ ":" ++ p.action.word := rfl

/-- A key is a category, a colon and the word of an action. -/
theorem toList_key (p : Permission) :
    p.key.toList = p.resource.text.toList ++ ':' :: p.action.word.toList := by
  rw [key_eq, String.toList_append, String.toList_append, List.append_assoc]
  rfl

/-- The colon between the category and the action is the only one in a key. -/
theorem count_key (p : Permission) : p.key.toList.count ':' = 1 := by
  rw [toList_key, List.count_append, List.count_cons_self,
    List.count_eq_zero.mpr p.resource.colon_not_mem, List.count_eq_zero.mpr p.action.colon_not_mem]

/-- The texts on either side of the colon of a key name the category and the action. -/
theorem exists_parts (p : Permission) : ∃ before after, p.key = before ++ ":" ++ after ∧
    Category.ofText before = .ok p.resource ∧ Action.ofText after = .ok p.action :=
  ⟨p.resource.text, p.action.word, p.key_eq, p.resource.ofText_text, p.action.ofText_word⟩

/-- Two permissions have one key when they are for the same action on the same category. -/
theorem key_eq_iff : p.key = q.key ↔ p.resource = q.resource ∧ p.action = q.action := by
  constructor
  · intro h
    -- both keys are cut at their only colon
    have hparts : p.resource.text.toList ++ ':' :: p.action.word.toList
        = q.resource.text.toList ++ ':' :: q.action.word.toList := by
      rw [← toList_key, ← toList_key, h]
    obtain ⟨hresource, -, haction⟩ := (List.append_cons_inj_of_notMem p.resource.colon_not_mem
      p.action.colon_not_mem).mp hparts
    exact ⟨Category.ext (String.toList_inj.mp hresource),
      Action.word_inj (String.toList_inj.mp haction)⟩
  · rintro ⟨hresource, haction⟩
    rw [key_eq, key_eq, hresource, haction]

/-- Keys are unambiguous. A text names a category just when, trimmed, it is spelled with the
characters that may be used, and then the one that is spelled so in small letters; a category names
itself, and JSON names categories by texts and no others. So the key of any permission holds one
colon, the parts before and after it name the category and the action, and two permissions have one
key just when they agree in both. -/
theorem keys_unambiguous :
    (∀ s, (∃ c, Category.ofText s = .ok c) ↔ Category.Spelling (Text.trim s)) ∧
    (∀ s c, Category.ofText s = .ok c ↔
      Category.Spelling (Text.trim s) ∧ c.text = Text.lower (Text.trim s)) ∧
    (∀ c : Category, Category.ofText c.text = .ok c) ∧
    (∀ v c, Category.ofJson? v = some c ↔ ∃ s, v = .ofText s ∧ Category.ofText s = .ok c) ∧
    (∀ p : Permission, p.key.toList.count ':' = 1 ∧
      ∃ before after, p.key = before ++ ":" ++ after ∧
        Category.ofText before = .ok p.resource ∧ Action.ofText after = .ok p.action) ∧
    ∀ p q : Permission, p.key = q.key ↔ p.resource = q.resource ∧ p.action = q.action :=
  ⟨fun _ => Category.exists_ofText_iff, fun _ _ => Category.ofText_eq_ok_iff, Category.ofText_text,
    fun _ _ => Category.ofJson?_eq_some_iff, fun p => ⟨p.count_key, p.exists_parts⟩,
    fun _ _ => key_eq_iff⟩

end Permission

end Rolebook
