import Mathlib.Data.List.Basic
import Rolebook.Gateway
import Rolebook.Proofs.Role.Normal

/-!
# Drafts and edits in normal form

What an administrator sends is brought into normal form first. `RoleDraft.IsNormal` and
`RoleEdit.IsNormal` say what that form is, and `Tidies` how it comes from what was given: texts are
trimmed or absent, and each permission is kept where it is first seen (`FirstSeen`).

* `RoleDraft.isNormal_normal`, `RoleEdit.isNormal_normal`: the normal form is in normal form.
* `RoleDraft.tidies_normal`, `RoleEdit.tidies_normal`: it comes from what was given.
* `RoleDraft.isNormal_iff`, `RoleEdit.isNormal_iff`: what is in normal form already stays as it is,
  and nothing else does.
-/

namespace Rolebook

/-! ## Each element where it is first seen -/

section FirstSeen

variable {α : Type} [DecidableEq α]

/-- The elements of a list, each of them once, in the order in which they are first seen. -/
structure FirstSeen (xs ys : List α) : Prop where
  nodup : ys.Nodup
  mem_iff : ∀ a, a ∈ ys ↔ a ∈ xs
  order : ∀ a ∈ xs, ∀ b ∈ xs, ys.idxOf a < ys.idxOf b ↔ xs.idxOf a < xs.idxOf b

/-- What comes first in a list, by what comes first in its tail. -/
theorem idxOf_cons_lt_iff {x a b : α} {xs : List α} :
    (x :: xs).idxOf a < (x :: xs).idxOf b ↔ b ≠ x ∧ (a = x ∨ xs.idxOf a < xs.idxOf b) := by
  by_cases hb : b = x
  · rw [hb, List.idxOf_cons_self]
    exact ⟨fun h => absurd h (Nat.not_lt_zero _), fun h => absurd rfl h.1⟩
  · rw [List.idxOf_cons_ne xs (Ne.symm hb)]
    by_cases ha : a = x
    · rw [ha, List.idxOf_cons_self]
      exact ⟨fun _ => ⟨hb, Or.inl rfl⟩, fun _ => Nat.succ_pos _⟩
    · rw [List.idxOf_cons_ne xs (Ne.symm ha), Nat.succ_lt_succ_iff]
      exact ⟨fun h => ⟨hb, Or.inr h⟩, fun h => h.2.resolve_left ha⟩

/-- Of two elements that pass a test, the first is also the first among those that pass it. -/
theorem idxOf_filter_lt_iff {p : α → Bool} {a b : α} (ha : p a = true) (hb : p b = true)
    (xs : List α) : (xs.filter p).idxOf a < (xs.filter p).idxOf b ↔ xs.idxOf a < xs.idxOf b := by
  induction xs with
  | nil => exact Iff.rfl
  | cons x xs ih =>
    by_cases hx : p x = true
    · rw [List.filter_cons_of_pos hx, idxOf_cons_lt_iff, idxOf_cons_lt_iff, ih]
    · have hax : a ≠ x := fun h => hx (h ▸ ha)
      have hbx : b ≠ x := fun h => hx (h ▸ hb)
      rw [List.filter_cons_of_neg hx, idxOf_cons_lt_iff, ih]
      exact ⟨fun h => ⟨hbx, Or.inr h⟩, fun h => h.2.resolve_left hax⟩

/-- To keep only the first of each loses no value. -/
theorem mem_keepFirst {xs : List α} {a : α} : a ∈ keepFirst id xs ↔ a ∈ xs := by
  induction xs with
  | nil => exact Iff.rfl
  | cons x xs ih =>
    rw [keepFirst, List.mem_cons, List.mem_cons, List.mem_filter, ih, bne_iff_ne]
    by_cases h : a = x <;> simp [h]

/-- Values stay in the order in which they were seen first. -/
theorem firstSeen_keepFirst (xs : List α) : FirstSeen xs (keepFirst id xs) where
  nodup := by
    have h := nodup_keepFirst id xs
    rwa [List.map_id] at h
  mem_iff _ := mem_keepFirst
  order := by
    induction xs with
    | nil => nofun
    | cons x xs ih =>
      intro a ha b hb
      rw [keepFirst, idxOf_cons_lt_iff, idxOf_cons_lt_iff]
      refine and_congr_right fun hbx => ?_
      by_cases hax : a = x
      · exact iff_of_true (Or.inl hax) (Or.inl hax)
      · have ha' : a ∈ xs := (List.mem_cons.mp ha).resolve_left hax
        have hb' : b ∈ xs := (List.mem_cons.mp hb).resolve_left hbx
        rw [idxOf_filter_lt_iff (p := fun y => id y != id x) (bne_iff_ne.mpr hax)
          (bne_iff_ne.mpr hbx), ih a ha' b hb']

end FirstSeen

/-! ## Texts -/

/-- An optional text in normal form: absent, or trimmed and not empty. -/
def IsNormalText (o : Option String) : Prop := ∀ t, o = some t → Text.trim t = t ∧ t ≠ ""

theorem isNormalText_normalText (o : Option String) : IsNormalText (normalText o) := by
  intro t ht
  obtain ⟨name, -, rfl⟩ := Option.map_eq_some_iff.mp ht
  exact ⟨name.trimmed, name.ne_empty⟩

/-- An absent text counts as an empty one: what is kept is the text trimmed. -/
theorem getD_normalText (o : Option String) :
    (normalText o).getD "" = Text.trim (o.getD "") := by
  cases o with
  | none => rfl
  | some t =>
    rw [normalText, NonBlank.ofOption_some, Option.getD_some]
    cases h : NonBlank.ofText? t with
    | none => exact ((NonBlank.ofText?_eq_none_iff t).mp h).symm
    | some name => exact NonBlank.text_of_ofText? h

/-- What is normal stays as it is. -/
theorem IsNormalText.normalText_eq {o : Option String} (h : IsNormalText o) :
    normalText o = o := by
  cases o with
  | none => rfl
  | some t =>
    obtain ⟨htrimmed, hne⟩ := h t rfl
    rw [normalText, NonBlank.ofOption_some]
    exact congrArg (Option.map (·.text)) (NonBlank.ofText?_text ⟨t, htrimmed, hne⟩)

/-- Without repetitions, all are kept. -/
theorem keepFirst_id_of_nodup {xs : List PermissionId} (h : xs.Nodup) : keepFirst id xs = xs :=
  keepFirst_of_nodup (by rwa [List.map_id])

/-! ## Edits -/

namespace RoleEdit

/-- An edit in normal form. -/
structure IsNormal (e : RoleEdit) : Prop where
  displayName : IsNormalText e.displayName
  description : IsNormalText e.description
  permissions : e.permissions.Nodup

/-- One edit asks for what the other does, in a tidy way. -/
structure Tidies (sent e : RoleEdit) : Prop where
  displayName : sent.displayName.getD "" = Text.trim (e.displayName.getD "")
  description : sent.description.getD "" = Text.trim (e.description.getD "")
  permissions : FirstSeen e.permissions sent.permissions

theorem isNormal_normal (e : RoleEdit) : e.normal.IsNormal where
  displayName := isNormalText_normalText e.displayName
  description := isNormalText_normalText e.description
  permissions := (firstSeen_keepFirst e.permissions).nodup

theorem tidies_normal (e : RoleEdit) : e.normal.Tidies e where
  displayName := getD_normalText e.displayName
  description := getD_normalText e.description
  permissions := firstSeen_keepFirst e.permissions

theorem IsNormal.normal_eq {e : RoleEdit} (h : e.IsNormal) : e.normal = e := by
  rw [normal, h.displayName.normalText_eq, h.description.normalText_eq,
    keepFirst_id_of_nodup h.permissions]

theorem isNormal_iff (e : RoleEdit) : e.IsNormal ↔ e.normal = e :=
  ⟨IsNormal.normal_eq, fun h => h ▸ e.isNormal_normal⟩

end RoleEdit

/-! ## Drafts -/

namespace RoleDraft

/-- A draft in normal form. -/
structure IsNormal (d : RoleDraft) : Prop where
  trimmed : Text.trim d.name = d.name
  ne_empty : d.name ≠ ""
  displayName : IsNormalText d.displayName
  description : IsNormalText d.description
  permissions : d.permissions.Nodup

/-- One draft asks for what the other does, in a tidy way. -/
structure Tidies (sent d : RoleDraft) : Prop where
  name : sent.name = Text.trim d.name
  displayName : sent.displayName.getD "" = Text.trim (d.displayName.getD "")
  description : sent.description.getD "" = Text.trim (d.description.getD "")
  permissions : FirstSeen d.permissions sent.permissions

theorem isNormal_normal (d : RoleDraft) (name : NonBlank) : (d.normal name).IsNormal where
  trimmed := name.trimmed
  ne_empty := name.ne_empty
  displayName := isNormalText_normalText d.displayName
  description := isNormalText_normalText d.description
  permissions := (firstSeen_keepFirst d.permissions).nodup

theorem tidies_normal {d : RoleDraft} {name : NonBlank} (h : name.text = Text.trim d.name) :
    (d.normal name).Tidies d where
  name := h
  displayName := getD_normalText d.displayName
  description := getD_normalText d.description
  permissions := firstSeen_keepFirst d.permissions

theorem IsNormal.normal_eq {d : RoleDraft} (h : d.IsNormal) {name : NonBlank}
    (hname : name.text = Text.trim d.name) : d.normal name = d := by
  rw [normal, h.displayName.normalText_eq, h.description.normalText_eq,
    keepFirst_id_of_nodup h.permissions, hname, h.trimmed]

theorem isNormal_iff {d : RoleDraft} {name : NonBlank} (hname : name.text = Text.trim d.name) :
    d.IsNormal ↔ d.normal name = d :=
  ⟨fun h => h.normal_eq hname, fun h => h ▸ d.isNormal_normal name⟩

end RoleDraft

end Rolebook
