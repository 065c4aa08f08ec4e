import Mathlib.Algebra.Order.BigOperators.Group.List
import Mathlib.Algebra.Order.Ring.Nat
import Rolebook.Proofs.Http.Requests

/-!
# Requests that can be put together

A request is put together from a base URL of the web that has a path and a host, if the token is
legal in a header and the URL does not grow too long. No call adds more than a role's and a user's
id with a few words around them, so it is enough for the base URL to leave room for so much
(`Usable`); then every call has its request (`Usable.exists_request`).
-/

namespace Rolebook

/-! ## Lengths in bytes -/

/-- A text of ASCII characters is as long in bytes as in characters. -/
theorem utf8ByteSize_of_ascii {cs : List Char} (h : ∀ c ∈ cs, c.utf8Size = 1) :
    (String.ofList cs).utf8ByteSize = cs.length := by
  induction cs with
  | nil => rfl
  | cons c cs ih =>
    rw [List.forall_mem_cons] at h
    rw [String.ofList_cons, String.utf8ByteSize_append, String.utf8ByteSize_singleton, h.1, ih h.2,
      List.length_cons, Nat.add_comm]

theorem utf8Size_hexChar : ∀ d < 16, (Text.hexChar d).utf8Size = 1 := by decide

/-- All ids are written in 36 bytes. -/
theorem Id.utf8ByteSize_text {kind : IdKind} (a : Id kind) : a.text.utf8ByteSize = 36 := by
  have hascii : ∀ c ∈ a.uuid.chars, c.utf8Size = 1 := by
    intro c hc
    rcases Uuid.mem_hyphenate hc with rfl | hm
    · rfl
    · obtain ⟨d, hd, rfl⟩ := List.mem_map.mp hm
      exact utf8Size_hexChar d (Text.lt_of_mem_hexDigits hd)
  rw [text, Uuid.text, utf8ByteSize_of_ascii hascii, Uuid.length_chars]

namespace Http

/-- How many bytes segments take in a path. -/
def pathSize (segments : List String) : Nat :=
  (segments.map fun s => 1 + s.utf8ByteSize).sum

theorem utf8ByteSize_segments (segments : List String) :
    (Url.Path.segments segments).text.utf8ByteSize = pathSize segments := by
  show (String.join (segments.map ("/" ++ ·))).utf8ByteSize = _
  induction segments with
  | nil => rfl
  | cons s segments ih =>
    rw [List.map_cons, String.join_cons, String.utf8ByteSize_append, ih, String.utf8ByteSize_append]
    rfl

/-- A path is as long as its parts. -/
theorem pathSize_append (segments more : List String) :
    pathSize (segments ++ more) = pathSize segments + pathSize more := by
  rw [pathSize, List.map_append, List.sum_append, pathSize, pathSize]

theorem trunk_sublist (segments : List String) : (trunk segments).Sublist segments := by
  unfold trunk
  split
  · exact List.nil_sublist _
  · split
    · exact List.dropLast_sublist _
    · exact List.Sublist.refl _

/-- What is left of a path when segments are put after it is no longer than the path. -/
theorem pathSize_stem_le (segments : List String) :
    pathSize (Url.stem segments) ≤ pathSize segments := by
  rw [stem_eq_trunk]
  exact List.Sublist.sum_le_sum ((trunk_sublist segments).map _) fun _ _ => Nat.zero_le _

/-- How many bytes a call adds to the path at most. -/
def longestPlace : Nat := 93

/-- No place of a call is longer than that of a membership call. -/
theorem pathSize_place_le (c : Gateway.Call) :
    pathSize ("api" :: "v1" :: c.place) ≤ longestPlace := by
  have hid : ∀ {kind : IdKind} (a : Id kind), a.text.utf8ByteSize = 36 := Id.utf8ByteSize_text
  cases c <;> simp [Gateway.Call.place, pathSize, hid, longestPlace] <;> decide

/-- The length of a URL is that of its parts; only the path grows when a call is put after it. -/
theorem utf8ByteSize_text (u : Url) :
    u.text.utf8ByteSize = u.origin.utf8ByteSize + (u.path.text.utf8ByteSize
      + (Url.queryText u.query).utf8ByteSize)
      + (u.fragment.elim "" ("#" ++ ·)).utf8ByteSize := by
  rw [Url.text, String.utf8ByteSize_append, String.utf8ByteSize_append, Url.target,
    String.utf8ByteSize_append]

/-- Without its credentials a URL is no longer than with them. -/
theorem utf8ByteSize_authority_le (a : Url.Authority) :
    ({ a with credentials := none } : Url.Authority).text.utf8ByteSize ≤ a.text.utf8ByteSize := by
  rw [Url.Authority.text, Url.Authority.text, String.utf8ByteSize_append, String.utf8ByteSize_append,
    String.utf8ByteSize_append, String.utf8ByteSize_append]
  exact Nat.add_le_add_right (Nat.add_le_add_right (Nat.zero_le _) _) _

/-- Without a name and a password a URL is no longer than with them. -/
theorem utf8ByteSize_withoutCredentials_le (u : Url) :
    u.withoutCredentials.text.utf8ByteSize ≤ u.text.utf8ByteSize := by
  have horigin : u.withoutCredentials.origin.utf8ByteSize ≤ u.origin.utf8ByteSize := by
    unfold Url.origin Url.withoutCredentials
    cases u.authority with
    | none => exact Nat.le_refl _
    | some a =>
      show (u.scheme ++ "://" ++ ({ a with credentials := none } : Url.Authority).text).utf8ByteSize
        ≤ (u.scheme ++ "://" ++ a.text).utf8ByteSize
      simp only [String.utf8ByteSize_append]
      exact Nat.add_le_add_left (utf8ByteSize_authority_le a) _
  rw [utf8ByteSize_text, utf8ByteSize_text]
  exact Nat.add_le_add_right (Nat.add_le_add_right horigin _) _

/-- To leave out the credentials leaves the host. -/
theorem hasHost_bareUrl (u : Url) : (bareUrl u).hasHost = u.hasHost := by
  unfold bareUrl Url.withoutCredentials Url.hasHost
  split
  · cases u.authority <;> rfl
  · rfl

/-- What can be sent with credentials can be sent without them. -/
theorem isSendable_bareUrl {u : Url} (h : Backend.isSendable u = true) :
    Backend.isSendable (bareUrl u) = true := by
  unfold bareUrl
  split
  · rw [Backend.isSendable, Bool.and_eq_true, Bool.and_eq_true, decide_eq_true_eq] at h ⊢
    obtain ⟨⟨hweb, hsize⟩, hhost⟩ := h
    refine ⟨⟨hweb, Nat.le_trans (utf8ByteSize_withoutCredentials_le u) hsize⟩, ?_⟩
    rw [← hhost]
    unfold Url.withoutCredentials
    cases u.authority <;> rfl
  · exact h

/-! ## Usable backends -/

/-- A backend that any call can be made to. -/
structure Backend.Usable (b : Backend) : Prop where
  pathed : ∃ segments, b.baseUrl.path = .segments segments
  web : b.baseUrl.isWeb = true
  hosted : b.baseUrl.hasHost = true
  sendable : (b.baseUrl.authority.all fun a =>
    !(a.host.text.toList.any unsendableInHost.contains)) = true
  legal : b.token.all isHeaderValue = true
  /-- There is room for the place of any call. -/
  short : b.baseUrl.text.utf8ByteSize + longestPlace ≤ longestUrl

/-- A usable backend has a request for every call. -/
theorem Backend.Usable.exists_request {b : Backend} (h : b.Usable) (c : Gateway.Call) :
    ∃ r, b.request c = .ok r := by
  obtain ⟨segments, hpath⟩ := h.pathed
  let located : Url :=
    { b.baseUrl with path := .segments (Url.stem segments ++ "api" :: "v1" :: c.place) }
  have hlocated : b.baseUrl.extend? ("api" :: "v1" :: c.place) = some located := by
    rw [Url.extend?, hpath]
  have hsize : located.text.utf8ByteSize ≤ longestUrl := by
    have hgrown : located.path.text.utf8ByteSize
        ≤ b.baseUrl.path.text.utf8ByteSize + longestPlace := by
      rw [hpath, utf8ByteSize_segments, utf8ByteSize_segments, pathSize_append]
      exact Nat.add_le_add (pathSize_stem_le segments) (pathSize_place_le c)
    have hbase := utf8ByteSize_text b.baseUrl
    have hthis : located.text.utf8ByteSize = b.baseUrl.origin.utf8ByteSize
      + (located.path.text.utf8ByteSize + (Url.queryText b.baseUrl.query).utf8ByteSize)
      + (b.baseUrl.fragment.elim "" ("#" ++ ·)).utf8ByteSize := utf8ByteSize_text located
    have hshort := h.short
    omega
  have hsendable : isSendable located = true := by
    rw [isSendable, Bool.and_eq_true, Bool.and_eq_true, decide_eq_true_eq]
    exact ⟨⟨h.web, hsize⟩, h.sendable⟩
  exact ⟨_, request_eq_ok_iff.mpr ⟨located, hlocated, (hasHost_bareUrl located).trans h.hosted,
    h.legal, isSendable_bareUrl hsendable, rfl⟩⟩

/-- A backend without a token or a tenant. -/
def office : Backend :=
  { baseUrl := ⟨"http", some ⟨none, .name "h", none⟩, false, .segments [""], none, none⟩ }

/-- Such a backend can be used for any call. -/
theorem usable_office : office.Usable where
  pathed := ⟨_, rfl⟩
  web := rfl
  hosted := rfl
  sendable := by decide
  legal := rfl
  short := by decide

/-! ## Shorter places -/

theorem bareUrl_path (u : Url) (path : Url.Path) :
    bareUrl { u with path := path } = { bareUrl u with path := path } := by
  unfold bareUrl
  show (if (Backend.signIn? u).isSome then _ else _) = _
  split <;> rfl

/-- A URL that can be sent can be sent with a shorter path. -/
theorem isSendable_of_shorter {u : Url} {path : Url.Path} (h : Backend.isSendable u = true)
    (hshort : path.text.utf8ByteSize ≤ u.path.text.utf8ByteSize) :
    Backend.isSendable { u with path := path } = true := by
  rw [Backend.isSendable, Bool.and_eq_true, Bool.and_eq_true, decide_eq_true_eq] at h ⊢
  obtain ⟨⟨hweb, hsize⟩, hhost⟩ := h
  refine ⟨⟨hweb, Nat.le_trans ?_ hsize⟩, hhost⟩
  rw [utf8ByteSize_text, utf8ByteSize_text u]
  exact Nat.add_le_add_right (Nat.add_le_add_left (Nat.add_le_add_right hshort _) _) _

/-- If there is a request for one call, there is one for another whose place is no longer. -/
theorem Backend.exists_request_of_shorter {b : Backend} {c c' : Gateway.Call} {r : Request}
    (h : b.request c = .ok r) (hshort : pathSize c'.place ≤ pathSize c.place) :
    ∃ r', b.request c' = .ok r' := by
  obtain ⟨located, hlocated, hhost, htoken, hsendable, -⟩ := request_eq_ok_iff.mp h
  unfold Url.extend? at hlocated
  cases hpath : b.baseUrl.path with
  | rootless text => rw [hpath] at hlocated; cases hlocated
  | segments segments =>
    rw [hpath] at hlocated
    have hlocated := (Option.some.inj hlocated).symm
    let path : Url.Path := .segments (Url.stem segments ++ "api" :: "v1" :: c'.place)
    have hthere : bareUrl located = { bareUrl b.baseUrl with
        path := .segments (Url.stem segments ++ "api" :: "v1" :: c.place) } := by
      rw [hlocated]
      exact bareUrl_path b.baseUrl _
    have hbare : bareUrl { b.baseUrl with path := path }
        = { bareUrl located with path := path } := by
      rw [hthere]
      exact bareUrl_path b.baseUrl path
    have hsize : path.text.utf8ByteSize ≤ (bareUrl located).path.text.utf8ByteSize := by
      rw [hthere, utf8ByteSize_segments, utf8ByteSize_segments, pathSize_append, pathSize_append]
      exact Nat.add_le_add_left (Nat.add_le_add_left (Nat.add_le_add_left hshort _) _) _
    refine ⟨_, request_eq_ok_iff.mpr ⟨{ b.baseUrl with path := path }, ?_, ?_, htoken, ?_, rfl⟩⟩
    · rw [Url.extend?, hpath]
    · rw [hasHost_bareUrl] at hhost ⊢
      rw [hlocated] at hhost
      exact hhost
    · rw [hbare]
      exact isSendable_of_shorter hsendable hsize

end Http

end Rolebook
