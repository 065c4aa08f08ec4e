import Rolebook.Role.Basic

/-!
# Roles made again

Making a role brings its input into normal form, and what a role holds is in that form already. So a
role made again from its own parts is the same role (`Role.ofInput_toInput`), and only the user
count can be given another value on the way. A reading of a role makes it again in just this way.
-/

namespace Rolebook

/-! ## What is kept of a list -/

section Kept

variable {α κ : Type} [DecidableEq κ]

/-- Nothing is dropped from a list in which no key comes twice. -/
theorem keepFirst_of_nodup {key : α → κ} {xs : List α} (h : (xs.map key).Nodup) :
    keepFirst key xs = xs := by
  induction xs with
  | nil => rfl
  | cons x xs ih =>
    obtain ⟨hx, hxs⟩ := List.nodup_cons.mp h
    rw [keepFirst, ih hxs]
    refine congrArg (x :: ·) (List.filter_eq_self.mpr fun y hy => bne_iff_ne.mpr fun e => hx ?_)
    rw [← e]
    exact List.mem_map_of_mem hy

/-- What is kept keeps its order. -/
theorem sublist_keepFirst (key : α → κ) (xs : List α) : (keepFirst key xs).Sublist xs := by
  induction xs with
  | nil => exact List.Sublist.slnil
  | cons x xs ih => exact (List.filter_sublist.trans ih).cons_cons x

/-- Keys can be taken before or after. -/
theorem keepFirst_map (key : α → κ) (xs : List α) :
    keepFirst id (xs.map key) = (keepFirst key xs).map key := by
  induction xs with
  | nil => rfl
  | cons x xs ih =>
    rw [List.map_cons, keepFirst, keepFirst, List.map_cons, ih, List.filter_map]
    rfl

/-- What is found first by its key is found first when no key is repeated. -/
theorem find?_keepFirst (key : α → κ) (p : κ → Bool) (xs : List α) :
    ((keepFirst key xs).find? fun x => p (key x)) = xs.find? fun x => p (key x) := by
  induction xs with
  | nil => rfl
  | cons x xs ih =>
    rw [keepFirst, List.find?_cons, List.find?_cons]
    cases hx : p (key x) with
    | true => rfl
    | false =>
      -- what is dropped further on has the same key, and fails the test as this one does
      have hkept : ∀ y, (decide (key y != key x ∧ p (key y))) = p (key y) := by
        intro y
        by_cases hy : key y = key x
        · simp [hy, hx]
        · simp [hy]
      rw [List.find?_filter, ← ih]
      simp only [hkept]

end Kept

/-! ## Texts -/

namespace NonBlank

/-- A text that is not blank is read back as it is. -/
theorem read_text (a : NonBlank) : read a.text = .ok a := by
  rw [read, ofText?_text]

/-- What is read of a text is the text without the white space around it. -/
theorem read_eq_ok_iff {s : String} {a : NonBlank} : read s = .ok a ↔ a.text = Text.trim s := by
  unfold read
  cases h : ofText? s with
  | none =>
    refine ⟨nofun, fun htext => ?_⟩
    exact absurd (htext.trans ((ofText?_eq_none_iff s).mp h)) a.ne_empty
  | some b =>
    have hb := text_of_ofText? h
    exact ⟨fun he => Except.ok.inj he ▸ hb, fun ha => congrArg Except.ok (ext (hb.trans ha.symm))⟩

theorem ofOption_some (s : String) : ofOption (some s) = ofText? s := by
  rw [ofOption, Option.bind_some]

/-- A text that may be missing is read back as it is. -/
theorem ofOption_text (o : Option NonBlank) : ofOption (o.map (·.text)) = o := by
  cases o with
  | none => rfl
  | some a => rw [Option.map_some, ofOption_some, ofText?_text]

end NonBlank

/-! ## Roles -/

namespace Role

@[ext] theorem ext {r s : Role} (hid : r.id = s.id) (hname : r.name = s.name)
    (hdisplay : r.displayName = s.displayName) (hdescription : r.description = s.description)
    (hsystem : r.isSystem = s.isSystem) (hpermissions : r.permissions = s.permissions)
    (hcount : r.userCount = s.userCount) (hcreated : r.createdAt = s.createdAt)
    (hupdated : r.updatedAt = s.updatedAt) : r = s := by
  cases r
  cases s
  simp_all

/-- A name that is not blank is all that it takes to make a role. -/
theorem ofInput_of_name {input : RoleInput} (name : NonBlank) (h : input.name = name.text) :
    ofInput input = .ok (named name input) := by
  rw [ofInput, h, NonBlank.read_text]
  rfl

/-- A role that an input makes is what the input describes, under some name. -/
theorem exists_eq_named {input : RoleInput} {r : Role} (h : ofInput input = .ok r) :
    ∃ name, r = named name input := by
  unfold ofInput at h
  cases hn : NonBlank.read input.name with
  | error fault => rw [hn] at h; cases h
  | ok name => rw [hn] at h; cases h; exact ⟨name, rfl⟩

/-- A role made again from its own parts, with another user count. -/
theorem ofInput_toInput (r : Role) (count : UInt32) :
    ofInput { r.toInput with userCount := count } = .ok { r with userCount := count } := by
  rw [ofInput_of_name r.name rfl]
  refine congrArg Except.ok (ext rfl rfl ?_ ?_ rfl ?_ rfl rfl rfl)
  · simp only [named, toInput, NonBlank.ofOption_some, NonBlank.ofText?_text, Option.getD_some]
  · simp only [named, toInput, NonBlank.ofOption_text]
  · exact keepFirst_of_nodup r.distinct

end Role

end Rolebook
