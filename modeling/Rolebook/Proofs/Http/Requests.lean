import Rolebook.Proofs.Http.Calls
import Rolebook.Proofs.Sends
import Rolebook.Proofs.Store.Failure
import Rolebook.Proofs.Uuid.Spelling

/-!
# What is sent

A server that keeps a record of the requests that reach it (`recorded`) shows what a gateway sends,
call by call. A call sends its own request at most, except that one which takes a role away may then
ask for the role (`sends_change`).

So all that is sent is well addressed (`WellAddressed`): it goes to a place of the call's own under
the base URL, by a method of the call's own (`Route`), with the token and the tenant in its headers
and nothing else there (`requests_well_addressed`). The base URL gives up an empty segment at the
end of its path, and the path `//` gives up both of them (`two_slashes_are_lost`).
-/

namespace Rolebook

/-! ## Addresses -/

/-- A number of hexadecimal digits in small letters. -/
def IsGroup (n : Nat) (cs : List Char) : Prop :=
  cs.length = n ∧ ∀ c ∈ cs, c ∈ "0123456789abcdef".toList

/-- A text is the hyphenated form of an id in small letters. -/
structure Id.Hyphenated {kind : IdKind} (a : Id kind) (s : String) : Prop where
  spells : Id.read s = .ok a
  groups : ∃ v w x y z : List Char,
    s.toList = v ++ '-' :: (w ++ '-' :: (x ++ '-' :: (y ++ '-' :: z))) ∧
      IsGroup 8 v ∧ IsGroup 4 w ∧ IsGroup 4 x ∧ IsGroup 4 y ∧ IsGroup 12 z

theorem mem_hexChar : ∀ d < 16, Text.hexChar d ∈ "0123456789abcdef".toList := by decide

/-- An id is written as 32 digits in groups, with four hyphens. -/
theorem Id.hyphenated_text {kind : IdKind} (a : Id kind) : a.Hyphenated a.text := by
  refine ⟨a.read_text, ?_⟩
  let digits := (Text.hexDigits 32 a.uuid.toNat).map Text.hexChar
  have hlength : digits.length = 32 := by rw [List.length_map, Text.length_hexDigits]
  have hdigits : ∀ c ∈ digits, c ∈ "0123456789abcdef".toList := by
    intro c hc
    obtain ⟨d, hd, rfl⟩ := List.mem_map.mp hc
    exact mem_hexChar d (Text.lt_of_mem_hexDigits hd)
  obtain ⟨v, w, x, y, z, heq, hv, hw, hx, hy, hz⟩ := Uuid.exists_groups hlength
  rw [heq] at hdigits
  simp only [List.forall_mem_append] at hdigits
  obtain ⟨hv', hw', hx', hy', hz'⟩ := hdigits
  refine ⟨v, w, x, y, z, ?_, ⟨hv, hv'⟩, ⟨hw, hw'⟩, ⟨hx, hx'⟩, ⟨hy, hy'⟩, hz, hz'⟩
  show a.uuid.text.toList = _
  rw [Uuid.toList_text]
  show Uuid.hyphenate digits = _
  rw [heq, Uuid.hyphenate_groups hv hw hx hy]

namespace Http

/-- The methods and the places of what a call may send. -/
inductive Route : Gateway.Call → Method → List String → Prop where
  | listRoles : Route .listRoles .get ["roles"]
  | getRole {id : RoleId} {s : String} (h : id.Hyphenated s) : Route (.getRole id) .get ["roles", s]
  | createRole (d : RoleDraft) : Route (.createRole d) .post ["roles"]
  | updateRole {id : RoleId} {s : String} (e : RoleEdit) (h : id.Hyphenated s) :
      Route (.updateRole id e) .put ["roles", s]
  | deleteRole {id : RoleId} {s : String} (h : id.Hyphenated s) :
      Route (.deleteRole id) .delete ["roles", s]
  | listPermissions : Route .listPermissions .get ["permissions"]
  | listUsers : Route .listUsers .get ["users"]
  | members {id : RoleId} {s : String} (h : id.Hyphenated s) :
      Route (.members id) .get ["roles", s, "users"]
  | assign {id : RoleId} {u : UserId} {s t : String} (h : id.Hyphenated s) (hu : u.Hyphenated t) :
      Route (.change id (.assign u)) .post ["roles", s, "users", t]
  | unassign {id : RoleId} {u : UserId} {s t : String} (h : id.Hyphenated s) (hu : u.Hyphenated t) :
      Route (.change id (.unassign u)) .delete ["roles", s, "users", t]
  /-- After a user was not found to hold the role. -/
  | lookUp {id : RoleId} {s : String} (u : UserId) (h : id.Hyphenated s) :
      Route (.change id (.unassign u)) .get ["roles", s]

/-- A call that changes something. -/
def Writes : Gateway.Call → Prop
  | .createRole _ | .updateRole _ _ | .deleteRole _ | .change _ _ => True
  | .listRoles | .getRole _ | .listPermissions | .listUsers | .members _ => False

/-- A call that goes by another method than GET is one that writes. -/
theorem Route.writes {c : Gateway.Call} {method : Method} {place : List String}
    (h : Route c method place) (hmethod : method ≠ .get) : Writes c := by
  cases h with
  | listRoles | getRole | listPermissions | listUsers | members | lookUp => exact absurd rfl hmethod
  | createRole | updateRole | deleteRole | assign | unassign => trivial

/-- Each call has its own method and place. -/
theorem route_call (c : Gateway.Call) : Route c c.method c.place := by
  cases c with
  | listRoles => exact .listRoles
  | getRole id => exact .getRole id.hyphenated_text
  | createRole d => exact .createRole d
  | updateRole id e => exact .updateRole e id.hyphenated_text
  | deleteRole id => exact .deleteRole id.hyphenated_text
  | listPermissions => exact .listPermissions
  | listUsers => exact .listUsers
  | members id => exact .members id.hyphenated_text
  | change id o =>
    cases o with
    | assign u => exact .assign id.hyphenated_text u.hyphenated_text
    | unassign u => exact .unassign id.hyphenated_text u.hyphenated_text

/-- The segments of a path that others are put after: all but an empty one at the end, and none of
the two empty ones of `//`. -/
def trunk : List String → List String
  | ["", ""] => []
  | segments => if segments.getLast? = some "" then segments.dropLast else segments

/-- What is left of a path, by cases on the empty segment at its end. -/
theorem stem_eq_trunk (segments : List String) : Url.stem segments = trunk segments := by
  match segments with
  | [] => rfl
  | [x] =>
    by_cases hx : x = ""
    · subst hx; rfl
    · simp [Url.stem, trunk, hx]
  | [x, y] =>
    by_cases hy : y = ""
    · subst hy
      by_cases hx : x = ""
      · subst hx; rfl
      · simp [Url.stem, trunk, hx]
    · simp [Url.stem, trunk, hy]
  | x :: y :: z :: rest =>
    -- with three segments or more, what is left when one goes is not the root
    simp only [Url.stem, trunk, List.length_cons, List.getLast?_cons_cons, List.dropLast_cons_cons]
    split <;> split <;> simp_all

/-- A request goes where its call belongs, and says who is asking. -/
structure WellAddressed (b : Backend) (c : Gateway.Call) (r : Request) : Prop where
  /-- The URL is the base URL but for the path. -/
  address : ∃ segments place : List String, b.baseUrl.path = .segments segments ∧
    Route c r.method place ∧
    r.url = { b.baseUrl with path := .segments (trunk segments ++ "api" :: "v1" :: place) }
  token : ∀ value : String,
    ("authorization", value) ∈ r.headers ↔ ∃ token, b.token = some token ∧ value = "Bearer " ++ token
  tenant : ∀ value : String,
    ("x-tenant-id", value) ∈ r.headers ↔ ∃ tenant ∈ b.tenant, value = tenant.text
  /-- Neither header is given twice, and no other says who is asking. -/
  distinct : (r.headers.map (·.1)).Sublist ["authorization", "x-tenant-id"]

/-- A URL without credentials signs nobody in. -/
theorem signIn?_eq_none {u : Url} (h : ∀ a ∈ u.authority, a.credentials = none) :
    Backend.signIn? u = none := by
  unfold Backend.signIn?
  cases ha : u.authority with
  | none => rfl
  | some a => simp [h a ha]

theorem bearer_eq (token : String) : Backend.bearer token = "Bearer " ++ token := rfl

/-- A request of the backend is well addressed for the call that it goes by. -/
theorem wellAddressed_of_request {b : Backend} {c c' : Gateway.Call} {r : Request}
    (hb : ∀ a ∈ b.baseUrl.authority, a.credentials = none) (h : b.request c = .ok r)
    (hroute : Route c' c.method c.place) : WellAddressed b c' r := by
  obtain ⟨located, hlocated, rfl⟩ := Backend.request_eq_ok h
  unfold Url.extend? at hlocated
  cases hpath : b.baseUrl.path with
  | rootless text => rw [hpath] at hlocated; cases hlocated
  | segments segments =>
    rw [hpath] at hlocated
    have heq := Option.some.inj hlocated
    have hsignIn : Backend.signIn? located = none := by
      rw [← heq]
      exact signIn?_eq_none hb
    refine ⟨⟨segments, c.place, hpath, hroute, ?_⟩, fun value => ?_, fun value => ?_, ?_⟩
    · rw [bareUrl, hsignIn, ← heq, stem_eq_trunk]
      rfl
    all_goals
      simp only [Backend.headers, hsignIn]
      cases b.token <;> cases b.tenant <;>
        simp [Backend.authorizationHeader, Backend.tenantHeader, bearer_eq]

/-- What a call may send: its own request, and if it takes a role away the one for the role. -/
def MaySend (b : Backend) (c : Gateway.Call) (r : Request) : Prop :=
  b.request c = .ok r ∨ ∃ id u, c = .change id (.unassign u) ∧ b.request (.getRole id) = .ok r

/-- What a call may send goes to the call's own place, and says who is asking. -/
theorem MaySend.wellAddressed {b : Backend} {c : Gateway.Call} {r : Request}
    (hb : ∀ a ∈ b.baseUrl.authority, a.credentials = none) (h : MaySend b c r) :
    WellAddressed b c r := by
  rcases h with h | ⟨id, u, rfl, h⟩
  · exact wellAddressed_of_request hb h (route_call c)
  · exact wellAddressed_of_request hb h (.lookUp u id.hyphenated_text)

/-! ## The record -/

variable {σ α : Type}

/-- A server that keeps a record of the requests that reach it. -/
def recorded (send : Transport (StateM σ)) : Transport (StateM (σ × List Request)) := fun r s =>
  let (reply, left) := (send r).run s.1
  (reply, left, s.2 ++ [r])

/-! ## Calls -/

variable (send : Transport (StateM σ)) (b : Backend)

/-- An exchange sends the request of its call, or nothing. -/
theorem sends_exchange (c : Gateway.Call) :
    Sends (MaySend b c) (exchange (recorded send) b c).run := by
  intro s sent
  rw [run_exchange, exchanged]
  cases hr : b.request c with
  | ok r => exact ⟨[r], rfl, List.forall_mem_singleton.mpr (Or.inl hr)⟩
  | error fault => exact ⟨[], (List.append_nil sent).symm, List.forall_mem_nil _⟩

theorem sends_fetch (read : Json → Option α) (c : Gateway.Call) :
    Sends (MaySend b c) (fetch (recorded send) b read c).run :=
  (sends_exchange send b c).bind_attempt fun _ => .ofExcept _

theorem sends_fetchRole (c : Gateway.Call) :
    Sends (MaySend b c) (fetchRole (recorded send) b c).run :=
  (sends_fetch send b _ c).bind_attempt fun _ => .ofExcept _

/-- A membership call sends its own request, and then perhaps one for the role. -/
theorem sends_change (id : RoleId) (o : Operation) :
    Sends (MaySend b (.change id o)) (change (recorded send) b id o).run := by
  refine (sends_exchange send b (.change id o)).lift.bind_attempt fun result => ?_
  cases result with
  | ok _ => cases o <;> exact .pure _
  | error fault =>
    cases o with
    | assign u =>
      dsimp only
      split <;> exact .pure _
    | unassign u =>
      dsimp only
      split
      · -- what asks for a role sends nothing but the request for the role
        have hrole : Sends (MaySend b (.change id (.unassign u)))
            (fetchRole (recorded send) b (.getRole id)).run :=
          (sends_fetchRole send b (.getRole id)).mono fun r hr =>
            hr.elim (fun hr => Or.inr ⟨id, u, rfl, hr⟩) nofun
        exact hrole.bind_attempt fun _ => .pure _
      · exact .pure _

variable (dispatch : Dispatch (StateM (σ × List Request)))

/-- A call of any kind sends what it may send and nothing else. -/
theorem sends_perform (c : Gateway.Call) :
    Sends (MaySend b c) (c.perform (gateway (recorded send) dispatch b)).run := by
  have hended : ∀ {α : Type} {x : Attempt (StateM (σ × List Request)) α},
      Sends (MaySend b c) x.run → Sends (MaySend b c) (Administrator.ended x).run :=
    fun hx => hx.bind_attempt fun _ => .pure _
  cases c with
  | listRoles => exact hended ((sends_fetch send b _ _).bind_attempt fun _ => .ofExcept _)
  | getRole | createRole | updateRole => exact hended (sends_fetchRole send b _)
  | deleteRole id => exact (sends_exchange send b _).bind_attempt fun _ => .pure _
  | listPermissions | listUsers | members => exact hended (sends_fetch send b _ _)
  | change id o => exact sends_change send b id o

/-- The server and its record after a run of calls. -/
def served (calls : List Gateway.Call) (s : σ × List Request) : σ × List Request :=
  calls.foldl (fun s c => c.leave (gateway (recorded send) dispatch b) s) s

/-- The requests of calls made one after the other fall into those of each call. -/
theorem exists_sent (calls : List Gateway.Call) (s : σ) (before : List Request) :
    ∃ sent : List (List Request),
      (served send b dispatch calls (s, before)).2 = before ++ sent.flatten ∧
      List.Forall₂ (fun c requests => ∀ r ∈ requests, MaySend b c r) calls sent := by
  induction calls generalizing s before with
  | nil => exact ⟨[], (List.append_nil before).symm, .nil⟩
  | cons c calls ih =>
    obtain ⟨new, hnew, hmay⟩ := sends_perform send b dispatch c s before
    rw [← Gateway.Call.leave_eq_perform] at hnew
    let left := c.leave (gateway (recorded send) dispatch b) (s, before)
    obtain ⟨sent, hsent, hall⟩ := ih left.1 left.2
    refine ⟨new :: sent, ?_, .cons hmay hall⟩
    show (served send b dispatch calls (left.1, left.2)).2 = _
    rw [hsent, hnew, List.flatten_cons, List.append_assoc]

variable {b}

/-- **What is sent is well addressed.** Whatever the server does, every request that a run of calls
sends belongs to one of the calls in their order: it goes to the call's own place under the base
URL, with the token and the tenant and no other headers of theirs, and only calls that write send
anything but questions. -/
theorem requests_well_addressed (hb : ∀ a ∈ b.baseUrl.authority, a.credentials = none)
    (calls : List Gateway.Call) (s : σ) :
    ∃ sent : List (List Request), (served send b dispatch calls (s, [])).2 = sent.flatten ∧
      List.Forall₂ (fun c requests =>
        ∀ r ∈ requests, WellAddressed b c r ∧ (r.method ≠ .get → Writes c)) calls sent := by
  obtain ⟨sent, hsent, hmay⟩ := exists_sent send b dispatch calls s []
  refine ⟨sent, hsent, hmay.imp fun c requests h r hr => ?_⟩
  have haddressed : WellAddressed b c r := (h r hr).wellAddressed hb
  obtain ⟨_, _, -, hroute, -⟩ := haddressed.address
  exact ⟨haddressed, hroute.writes⟩

/-- A backend with a token and a tenant, whose base URL has a query and a slash too many. -/
def tenanted : Backend where
  baseUrl := ⟨"http", some ⟨none, .name "h", none⟩, false, .segments ["x", ""], some "q", none⟩
  token := some "key"
  tenant := some ⟨⟨5, by decide⟩⟩

/-- A server that finds nothing. -/
def barren : Transport (StateM Unit) := fun _ s => (.answer 404 none, s)

/-- A user is not found to hold a role, and the role is not found either: both requests are well
addressed. -/
theorem requests_well_addressed_lookUp :
    let c : Gateway.Call := .change Store.editorsId (.unassign Store.ada.id)
    ∃ first second : Request,
      (served barren tenanted inTurn [c] ((), [])).2 = [first, second] ∧
      first.method = .delete ∧ WellAddressed tenanted c first ∧
      second.method = .get ∧ WellAddressed tenanted c second := by
  have hmethods : (served barren tenanted inTurn
      [.change Store.editorsId (.unassign Store.ada.id)] ((), [])).2.map (·.method)
        = [.delete, .get] := by
    decide +kernel
  intro c
  obtain ⟨sent, hsent, hall⟩ :=
    requests_well_addressed barren inTurn (b := tenanted) (by rintro _ ⟨⟩; rfl) [c] ()
  obtain ⟨requests, _, hrequests, hnil, rfl⟩ := List.forall₂_cons_left_iff.mp hall
  cases hnil
  obtain ⟨first, _, htwo, hfirst, hrest⟩ := List.map_eq_cons_iff.mp hmethods
  obtain ⟨second, _, rfl, hsecond, hnil⟩ := List.map_eq_cons_iff.mp hrest
  cases List.map_eq_nil_iff.mp hnil
  rw [htwo, List.flatten_singleton] at hsent
  subst hsent
  exact ⟨first, second, htwo, hfirst, (hrequests first (by simp)).1, hsecond,
    (hrequests second (by simp)).1⟩

/-- A backend whose base URL ends in two slashes. -/
def slashed : Backend :=
  { baseUrl := ⟨"http", some ⟨none, .name "h", none⟩, false, .segments ["", ""], none, none⟩ }

/-- It is not so that a base URL gives up one empty segment at most. -/
theorem two_slashes_are_lost :
    ¬ ∀ (b : Backend) (segments : List String), (∀ a ∈ b.baseUrl.authority, a.credentials = none) →
      b.baseUrl.path = .segments segments →
      ∀ r ∈ (served barren b inTurn [.listRoles] ((), [])).2,
        ∃ kept : List String, (kept = segments ∨ kept ++ [""] = segments) ∧
          r.url.path = .segments (kept ++ ["api", "v1", "roles"]) := by
  intro hall
  have hlog : ∃ r : Request, (served barren slashed inTurn [.listRoles] ((), [])).2 = [r] ∧
      r.url.path = .segments ["api", "v1", "roles"] := ⟨_, rfl, rfl⟩
  obtain ⟨r, hone, hpath⟩ := hlog
  obtain ⟨kept, hkept, hpath'⟩ := hall slashed ["", ""] (by rintro _ ⟨⟩; rfl) rfl r
    (hone ▸ List.mem_singleton_self r)
  have hempty : kept = [] := by
    have hsame := Url.Path.segments.inj (hpath.symm.trans hpath')
    exact List.append_left_eq_self.mp hsame.symm
  subst hempty
  rcases hkept with hkept | hkept <;> cases hkept

end Http

end Rolebook
