import Rolebook.Permission.Basic
import Rolebook.Proofs.Text.Blank
import Rolebook.Proofs.Text.Order
import Rolebook.Proofs.Uuid.Forms

/-!
# The one text of an id

An id is read from each of its spellings with any white space around it, and from nothing else
(`Id.read_eq_ok_iff_padded`). JSON takes the same spellings without white space, since there is none
inside them (`Uuid.Spells.isBlank_eq_false`). Of the spellings one is written, and the texts that
are written are ordered as the numbers are: digits are written from the highest down, all of them
(`Text.hexDigits_lt`), and the hyphens stand at the same places in every text
(`Uuid.hyphenate_lt_iff`).
-/

namespace Rolebook

namespace Text

/-! ## Digits are ordered as numbers -/

/-- The first elements decide, unless they are the same. -/
theorem append_lt_append_iff {xs ys as bs : List Char} (h : xs.length = ys.length) :
    xs ++ as < ys ++ bs ↔ xs < ys ∨ xs = ys ∧ as < bs := by
  induction xs generalizing ys with
  | nil =>
    obtain rfl := List.eq_nil_of_length_eq_zero h.symm
    simp
  | cons x xs ih =>
    cases ys with
    | nil => cases h
    | cons y ys =>
      rw [List.cons_append, List.cons_append, List.cons_lt_cons_iff, List.cons_lt_cons_iff,
        ih (Nat.succ.inj h), List.cons.injEq]
      tauto

/-- A greater digit is a greater character. -/
theorem hexChar_lt : ∀ d < 16, ∀ e < 16, d < e → hexChar d < hexChar e := by decide

/-- Digits of one length are ordered as the numbers they are all the digits of. -/
theorem hexDigits_lt {n v w : Nat} (hw : w < 16 ^ n) (h : v < w) :
    (hexDigits n v).map hexChar < (hexDigits n w).map hexChar := by
  induction n generalizing v w with
  | zero =>
    rw [Nat.pow_zero] at hw
    omega
  | succ n ih =>
    have hlength : ((hexDigits n (v / 16)).map hexChar).length
        = ((hexDigits n (w / 16)).map hexChar).length := by
      rw [List.length_map, List.length_map, length_hexDigits, length_hexDigits]
    rw [hexDigits, hexDigits, List.map_append, List.map_append, append_lt_append_iff hlength]
    -- the digits before the last one decide, and the last one where they are the same
    rcases Nat.lt_or_eq_of_le (Nat.div_le_div_right (c := 16) h.le) with hdiv | hdiv
    · refine Or.inl (ih ?_ hdiv)
      rw [Nat.pow_succ] at hw
      omega
    · refine Or.inr ⟨by rw [hdiv], List.cons_lt_cons_iff.mpr (Or.inl ?_)⟩
      exact hexChar_lt _ (Nat.mod_lt v (by decide)) _ (Nat.mod_lt w (by decide)) (by omega)

/-! ## Digits are not white space -/

theorem isBlank_toLower : ∀ c : Char, isBlank c.toLower = isBlank c :=
  toLower_cases (p := fun d c => isBlank d = isBlank c) (fun _ _ => rfl) (by decide)

end Text

namespace Uuid

open Text

variable {u v : Uuid} {cs ds : List Char}

/-! ## Hyphens keep the order -/

/-- Hyphens at the same places make no difference to an order. -/
theorem hyphenate_lt_iff (hcs : cs.length = 32) (hds : ds.length = 32) :
    hyphenate cs < hyphenate ds ↔ cs < ds := by
  obtain ⟨a, b, c, d, e, rfl, ha, hb, hc, hd, -⟩ := exists_groups hcs
  obtain ⟨a', b', c', d', e', rfl, ha', hb', hc', hd', -⟩ := exists_groups hds
  rw [hyphenate_groups ha hb hc hd, hyphenate_groups ha' hb' hc' hd']
  simp only [append_lt_append_iff (ha.trans ha'.symm), append_lt_append_iff (hb.trans hb'.symm),
    append_lt_append_iff (hc.trans hc'.symm), append_lt_append_iff (hd.trans hd'.symm),
    List.cons_lt_cons_iff, lt_irrefl, true_and, false_or]

/-- A greater number has the greater text. -/
theorem text_lt_of_lt (h : u.toNat < v.toNat) : u.text < v.text := by
  have hlength : ∀ w : Uuid, ((hexDigits 32 w.toNat).map hexChar).length = 32 := fun w => by
    rw [List.length_map, length_hexDigits]
  have hdigits : (hexDigits 32 u.toNat).map hexChar < (hexDigits 32 v.toNat).map hexChar :=
    hexDigits_lt v.isLt h
  rw [String.lt_iff_toList_lt, toList_text, toList_text]
  exact (hyphenate_lt_iff (hlength u) (hlength v)).mpr hdigits

/-- The texts of identifiers are ordered as the identifiers are. -/
theorem text_lt_iff : u.text < v.text ↔ u.toNat < v.toNat := by
  refine ⟨fun h => ?_, text_lt_of_lt⟩
  rcases lt_trichotomy u.toNat v.toNat with hlt | heq | hlt
  · exact hlt
  · rw [ext heq] at h
    exact absurd h (lt_irrefl _)
  · exact absurd (text_lt_of_lt hlt) h.not_gt

/-! ## Spellings -/

/-- The text of an identifier spells it. -/
theorem spells_chars (u : Uuid) : u.Spells u.chars := ofChars?_eq_some_iff.mp (ofChars?_chars u)

theorem isBlank_of_map_toLower {shape : List Char} (hshape : ∀ c ∈ shape, isBlank c = false)
    (h : cs.map Char.toLower = shape) : ∀ c ∈ cs, isBlank c = false := by
  intro c hc
  rw [← isBlank_toLower]
  exact hshape _ (h ▸ List.mem_map_of_mem hc)

/-- There is no white space among digits. -/
theorem Digits.isBlank_eq_false (h : u.Digits ds) : ∀ c ∈ ds, isBlank c = false := by
  refine isBlank_of_map_toLower (fun c hc => ?_) h
  obtain ⟨d, hd, rfl⟩ := List.mem_map.mp hc
  exact isBlank_hexChar d (lt_of_mem_hexDigits hd)

theorem isBlank_of_mem_hyphenate (h : ∀ c ∈ ds, isBlank c = false) :
    ∀ c ∈ hyphenate ds, isBlank c = false := by
  intro c hc
  rcases mem_hyphenate hc with rfl | hmem
  · decide
  · exact h c hmem

theorem isBlank_of_mem_urn : ∀ c ∈ "urn:uuid:".toList, isBlank c = false := by
  intro c hc
  have hall : ("urn:uuid:".toList.all fun c => !isBlank c) = true := by decide
  simpa using List.all_eq_true.mp hall c hc

/-- No spelling has white space in it. -/
theorem Spells.isBlank_eq_false (h : u.Spells cs) : ∀ c ∈ cs, isBlank c = false := by
  cases h with
  | plain hdigits => exact hdigits.isBlank_eq_false
  | hyphenated hdigits => exact isBlank_of_mem_hyphenate hdigits.isBlank_eq_false
  | braced hdigits =>
    intro c hc
    rcases List.mem_cons.mp hc with rfl | hc
    · decide
    · rcases List.mem_append.mp hc with hc | hc
      · exact isBlank_of_mem_hyphenate hdigits.isBlank_eq_false c hc
      · rw [List.mem_singleton.mp hc]
        decide
  | urn hstart hdigits =>
    intro c hc
    rcases List.mem_append.mp hc with hc | hc
    · exact isBlank_of_map_toLower isBlank_of_mem_urn hstart c hc
    · exact isBlank_of_mem_hyphenate hdigits.isBlank_eq_false c hc

/-! ## Capital letters before the digits -/

/-- The spellings in which a capital letter can only be a digit: `urn:uuid:` is written as it stands
here. -/
inductive SpellsPlainly (u : Uuid) : List Char → Prop where
  | plain {digits : List Char} (h : u.Digits digits) : SpellsPlainly u digits
  | hyphenated {digits : List Char} (h : u.Digits digits) : SpellsPlainly u (hyphenate digits)
  | braced {digits : List Char} (h : u.Digits digits) :
      SpellsPlainly u ('{' :: (hyphenate digits ++ ['}']))
  | urn {digits : List Char} (h : u.Digits digits) :
      SpellsPlainly u ("urn:uuid:".toList ++ hyphenate digits)

/-- A plain spelling is a spelling. -/
theorem SpellsPlainly.spells (h : u.SpellsPlainly cs) : u.Spells cs := by
  cases h with
  | plain hdigits => exact .plain hdigits
  | hyphenated hdigits => exact .hyphenated hdigits
  | braced hdigits => exact .braced hdigits
  | urn hdigits => exact .urn (by decide) hdigits

/-- A text of 45 characters is such a spelling only if it begins with `urn:uuid:` in small letters.
-/
theorem SpellsPlainly.urn_isPrefix (h : u.SpellsPlainly cs) (hlength : cs.length = 45) :
    "urn:uuid:".toList <+: cs := by
  cases h with
  | plain hdigits => exact absurd (hdigits.length_eq.symm.trans hlength) (by decide)
  | hyphenated hdigits =>
    exact absurd ((length_hyphenate hdigits.length_eq).symm.trans hlength) (by decide)
  | braced hdigits => simp [length_hyphenate hdigits.length_eq] at hlength
  | urn => exact List.prefix_append ..

end Uuid

namespace Id

open Text

variable {kind : IdKind} {a b : Id kind} {s : String} {v : Json}

/-- An id is read from its spellings, with any white space around them. -/
theorem read_eq_ok_iff_padded : Id.read s = .ok a ↔
    ∃ before spelling after, s = before ++ spelling ++ after ∧ AllBlank before ∧ AllBlank after ∧
      a.uuid.Spells spelling.toList := by
  rw [read_eq_ok_iff_spells]
  constructor
  · intro h
    obtain ⟨before, after, hbefore, hafter, hs⟩ := exists_padding s
    exact ⟨before, trim s, after, hs, hbefore, hafter, h⟩
  · rintro ⟨before, spelling, after, rfl, hbefore, hafter, h⟩
    rwa [trim_padded hbefore hafter, trim_of_not_blank h.isBlank_eq_false]

/-- Without trimming, only a text without white space around it is read, and as the same id. -/
theorem ofExactText?_eq_some_iff : ofExactText? s = some a ↔ Tight s ∧ Id.read s = .ok a := by
  have hspells : ofExactText? s = some a ↔ a.uuid.Spells s.toList := by
    rw [← Uuid.ofChars?_eq_some_iff, ofExactText?, Uuid.read?, Option.map_eq_some_iff]
    exact ⟨fun ⟨u, hu, ha⟩ => ha ▸ hu, fun h => ⟨a.uuid, h, rfl⟩⟩
  rw [hspells, ← trim_eq_self_iff, read_eq_ok_iff_spells]
  constructor
  · intro h
    have htrim : trim s = s := trim_of_not_blank h.isBlank_eq_false
    exact ⟨htrim, htrim.symm ▸ h⟩
  · rintro ⟨htrim, h⟩
    rwa [htrim] at h

/-- A JSON value is an id when it is a text that the id is read from as it stands. -/
theorem ofJson?_eq_some_iff : Id.ofJson? v = some a ↔
    ∃ s, v = .ofText s ∧ Tight s ∧ Id.read s = .ok a := by
  simp only [ofJson?, Option.bind_eq_some_iff, Json.text?_eq_some_iff, ofExactText?_eq_some_iff]

/-- Ids are ordered as their texts are, byte by byte. -/
theorem rank_lt_iff_bytes : rank a < rank b ↔ bytes a.text < bytes b.text := by
  rw [bytes_lt_iff, text, text, Uuid.text_lt_iff]
  rfl

/-- Every id has one text that is written for it and is read back, the other texts that it is read
from are its spellings with white space around them, JSON takes those of them that have none, and
ids are ordered as the numbers that they hold and as the bytes of what is written for them. -/
theorem canonical_text (a : Id kind) :
    (a.uuid.Spells a.text.toList ∧ Id.read a.text = .ok a) ∧
    (∀ s, Id.read s = .ok a ↔
      ∃ before spelling after, s = before ++ spelling ++ after ∧ AllBlank before ∧ AllBlank after ∧
        a.uuid.Spells spelling.toList) ∧
    (∀ v, Id.ofJson? v = some a ↔ ∃ s, v = .ofText s ∧ Tight s ∧ Id.read s = .ok a) ∧
    (∀ b : Id kind, (rank a < rank b ↔ a.uuid.toNat < b.uuid.toNat) ∧
      (rank a < rank b ↔ bytes a.text < bytes b.text)) := by
  have hspells : a.uuid.Spells a.text.toList := by
    rw [text, Uuid.toList_text]
    exact Uuid.spells_chars a.uuid
  exact ⟨⟨hspells, read_text a⟩, fun _ => read_eq_ok_iff_padded, fun _ => ofJson?_eq_some_iff,
    fun _ => ⟨Iff.rfl, rank_lt_iff_bytes⟩⟩

/-- The id of a user. -/
def capital : UserId := ⟨⟨0x7f1a3c9e1e1c4a8e9c7e0d1f2b3c4d5e, by decide⟩⟩

/-- Capital letters are taken before the digits too: an id is read from a text that none of its
plain spellings is in. -/
theorem capital_prefix_is_read :
    Id.read "URN:UUID:7f1a3c9e-1e1c-4a8e-9c7e-0d1f2b3c4d5e" = .ok capital ∧
    ¬ ∃ before spelling after : String,
      "URN:UUID:7f1a3c9e-1e1c-4a8e-9c7e-0d1f2b3c4d5e" = before ++ spelling ++ after ∧
        AllBlank before ∧ AllBlank after ∧ capital.uuid.SpellsPlainly spelling.toList := by
  refine ⟨by decide +kernel, ?_⟩
  rintro ⟨before, spelling, after, htext, hbefore, hafter, hspells⟩
  have htrim := trim_padded hbefore hafter (s := spelling)
  rw [← htext, trim_of_not_blank hspells.spells.isBlank_eq_false] at htrim
  rw [← htrim] at hspells
  exact absurd (hspells.urn_isPrefix (by decide +kernel)) (by decide +kernel)

end Id

end Rolebook
