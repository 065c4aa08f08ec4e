import Mathlib.Data.Prod.Lex
import Rolebook.Administrator.Members
import Rolebook.Proofs.Text.Order

/-!
# Listings

What a gateway lists is shown in an order of its own. `Arranged` says what that comes to: nothing is
left out and nothing is added, keys do not decrease, and entries of one key stay as the gateway had
them. Sorting by keys of a linear order does so (`arranged_mergeSort`): the entries of one key are
in order already, and sorting keeps what is. Texts may stand for their bytes as keys, since both are
ordered alike (`Arranged.of_key`).

`sorts_listings` says so of the four listings, whatever the gateway does to answer them.
-/

namespace Rolebook

/-! ## Stable sorting by a key -/

section Sorting

variable {α κ κ' : Type} [DecidableEq κ] [DecidableEq κ']

/-- The entries of `xs` in the order of their keys, those of one key as they were. -/
structure Arranged [LE κ] (key : α → κ) (xs ys : List α) : Prop where
  perm : ys.Perm xs
  ordered : ys.Pairwise fun a b => key a ≤ key b
  stable : ∀ a, ys.filter (fun b => key b = key a) = xs.filter (fun b => key b = key a)

/-- To arrange by one key is to arrange by any other that puts entries in the same order. -/
theorem Arranged.of_key [LE κ] [LE κ'] {key : α → κ} {key' : α → κ'} {xs ys : List α}
    (h : Arranged key xs ys) (hle : ∀ a b, key a ≤ key b → key' a ≤ key' b)
    (heq : ∀ a b, key a = key b ↔ key' a = key' b) : Arranged key' xs ys where
  perm := h.perm
  ordered := h.ordered.imp fun hab => hle _ _ hab
  stable a := by
    simp only [← heq]
    exact h.stable a

/-- Sorting by a comparison of keys arranges: nothing is lost, keys ascend, and the entries of one
key stay as they came. -/
theorem arranged_mergeSort {κ : Type} [LinearOrder κ] (key : α → κ) {atMost : α → α → Bool}
    (h : ∀ a b, atMost a b = true ↔ key a ≤ key b) (xs : List α) :
    Arranged key xs (xs.mergeSort atMost) := by
  have htrans : ∀ a b c, atMost a b = true → atMost b c = true → atMost a c = true := by
    intro a b c hab hbc
    exact (h a c).mpr (le_trans ((h a b).mp hab) ((h b c).mp hbc))
  have htotal : ∀ a b, (atMost a b || atMost b a) = true := by
    intro a b
    rw [Bool.or_eq_true, h, h]
    exact le_total (key a) (key b)
  have hperm : (xs.mergeSort atMost).Perm xs := List.mergeSort_perm xs atMost
  refine ⟨hperm, ?_, fun a => ?_⟩
  · exact (List.pairwise_mergeSort htrans htotal xs).imp fun hab => (h _ _).mp hab
  · -- entries of one key are in order, so they are found in the sorted list as they are
    have hordered : (xs.filter fun b => key b = key a).Pairwise fun b c => atMost b c = true := by
      refine List.pairwise_of_forall_mem_list fun b hb c hc => (h b c).mpr ?_
      have hkb : key b = key a := of_decide_eq_true (List.mem_filter.mp hb).2
      have hkc : key c = key a := of_decide_eq_true (List.mem_filter.mp hc).2
      rw [hkb, hkc]
    have hsub : (xs.filter fun b => key b = key a).Sublist (xs.mergeSort atMost) :=
      List.sublist_mergeSort htrans htotal hordered List.filter_sublist
    have hfiltered := hsub.filter fun b => key b = key a
    simp only [List.filter_filter, Bool.and_self] at hfiltered
    exact (hfiltered.eq_of_length (hperm.filter _).length_eq.symm).symm

end Sorting

namespace Text

/-- Bytes say which text they are of. -/
theorem bytes_inj {s t : String} : bytes s = bytes t ↔ s = t := by
  refine ⟨fun h => ?_, fun h => h ▸ rfl⟩
  rcases lt_trichotomy s t with hlt | heq | hlt
  · exact absurd (h ▸ bytes_lt_of_lt hlt) (List.lt_irrefl _)
  · exact heq
  · exact absurd (h ▸ bytes_lt_of_lt hlt) (List.lt_irrefl _)

/-- The order of texts by their characters is that by their bytes. -/
theorem bytes_le_of_le {s t : String} (h : s ≤ t) : bytes s ≤ bytes t :=
  fun hlt => absurd (bytes_lt_iff.mp hlt) (not_lt_of_ge h)

/-- Sorting by texts is sorting by their bytes. -/
theorem arranged_atMost {α : Type} (f : α → String) (xs : List α) :
    Arranged (fun a => bytes (f a)) xs (xs.mergeSort fun a b => atMost (f a) (f b)) :=
  (arranged_mergeSort f (fun _ _ => decide_eq_true_iff) xs).of_key
    (fun _ _ => bytes_le_of_le) fun _ _ => bytes_inj.symm

end Text

namespace Administrator

/-! ## The order of permissions -/

/-- Permissions are ordered by the bytes of the resource, and for one resource by the place of the
action among all actions. -/
def permissionKey (p : Permission) : List UInt8 ×ₗ Nat :=
  toLex (Text.bytes p.resource.text, Action.all.idxOf p.action)

theorem place_eq_idxOf (a : Action) : a.place = Action.all.idxOf a := by cases a <;> rfl

/-- Permissions are compared by resource, and only within a resource by action. -/
theorem permissionAtMost_iff (p q : Permission) : permissionAtMost p q = true ↔
    toLex (p.resource.text, p.action.place) ≤ toLex (q.resource.text, q.action.place) := by
  rw [Prod.Lex.toLex_le_toLex]
  dsimp only
  unfold permissionAtMost
  split
  next heq =>
    rw [Ranked.atMost, decide_eq_true_eq]
    exact ⟨fun h => Or.inr ⟨heq, h⟩, fun h => h.elim (fun hlt => absurd heq hlt.ne) And.right⟩
  next hne =>
    rw [Text.atMost, decide_eq_true_eq]
    exact ⟨fun h => Or.inl (lt_of_le_of_ne h hne), fun h => h.elim le_of_lt fun h => absurd h.1 hne⟩

/-- Sorting by the comparison of permissions is sorting by their keys. -/
theorem arranged_permissions (xs : List Permission) :
    Arranged permissionKey xs (xs.mergeSort permissionAtMost) := by
  refine (arranged_mergeSort _ permissionAtMost_iff xs).of_key (fun p q h => ?_) fun p q => ?_
  · rw [Prod.Lex.toLex_le_toLex] at h
    refine Prod.Lex.toLex_le_toLex.mpr (h.imp Text.bytes_lt_of_lt fun ⟨heq, hle⟩ => ⟨?_, ?_⟩)
    · exact Text.bytes_inj.mpr heq
    · rwa [place_eq_idxOf, place_eq_idxOf] at hle
  · simp only [permissionKey, toLex_inj, Prod.mk.injEq, Text.bytes_inj, place_eq_idxOf]

/-! ## Calls that list -/

variable {α κ : Type} [DecidableEq κ] [LE κ] {m : Type → Type} [Monad m]

/-- A call answers what another one answers, in the order of keys. -/
def Sorts (key : α → κ) (call sorted : Attempt m (List α)) : Prop :=
  ∃ arrange : List α → List α, (∀ xs, Arranged key xs (arrange xs)) ∧
    sorted = (do return arrange (← call))

/-- The four listings are those of the gateway, each in its own order. -/
structure SortsListings (a : Administrator m) : Prop where
  roles : Sorts (fun r => Text.bytes r.name.text) a.gateway.listRoles a.listRoles
  permissions : Sorts permissionKey a.gateway.listPermissions a.listPermissions
  users : Sorts (fun u => Text.bytes u.username) a.gateway.listUsers a.listUsers
  members : ∀ role, Sorts (fun u => Text.bytes u.username) (a.gateway.listMembers role)
    (a.members role)

/-- What an administrator lists is what the gateway lists, sorted. -/
theorem sorts_listings (a : Administrator m) : a.SortsListings where
  roles := ⟨_, Text.arranged_atMost fun r : Role => r.name.text, rfl⟩
  permissions := ⟨_, arranged_permissions, rfl⟩
  users := ⟨_, Text.arranged_atMost User.username, rfl⟩
  members _ := ⟨_, Text.arranged_atMost User.username, rfl⟩

end Administrator

end Rolebook
