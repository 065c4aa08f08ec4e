import Mathlib
import Rolebook.Proofs.Http.Payload
import Rolebook.Proofs.Http.Sendable
import Rolebook.Proofs.Store.Roster

/-!
# A server of memberships

A server keeps a roster and answers requests about it, told apart by their methods and places
(`Serves`). It says more by its statuses than a gateway does: that a role is held already, or that
something is missing and not what. The gateway makes a success of the one, and asks for the role to
make something of the other, so that behind it the server goes by rosters as a store does
(`goesBy_gateway`). Whoever calls either of them cannot tell which it is (`same_memberships`).
-/

namespace Rolebook.Http

open MemberCall (Answer Agree)

/-! ## Servers -/

/-- A request for a place under the base URL, from those who the backend says are asking. -/
structure Reaches (b : Backend) (r : Request) (method : Method) (place : List String) : Prop where
  method : r.method = method
  path : ∃ segments, b.baseUrl.path = .segments segments ∧
    r.url.path = .segments (trunk segments ++ "api" :: "v1" :: place)
  server : r.url.scheme = b.baseUrl.scheme ∧
    r.url.authority.map (fun a => (a.host, a.port))
      = b.baseUrl.authority.map fun a => (a.host, a.port)
  query : r.url.query = b.baseUrl.query
  token : ∀ token ∈ b.token, ("authorization", "Bearer " ++ token) ∈ r.headers
  tenant : ∀ tenant ∈ b.tenant, ("x-tenant-id", tenant.text) ∈ r.headers

/-- How a role is given to a user. -/
inductive Given (v : Roster) (a : Assignment) : Reply → Roster → Prop where
  | added {status : Nat} {body : Option (List UInt8)} (known : v.Knows a) (new : ¬ v.held a)
      (success : isSuccess status = true) : Given v a (.answer status body) (v.add a)
  | heldAlready {body : Option (List UInt8)} (held : v.held a) : Given v a (.answer 409 body) v
  | unknown {body : Option (List UInt8)} (unknown : ¬ v.Knows a) : Given v a (.answer 404 body) v

/-- How a role is taken from a user. -/
inductive Taken (v : Roster) (a : Assignment) : Reply → Roster → Prop where
  | removed {status : Nat} {body : Option (List UInt8)} (held : v.held a)
      (success : isSuccess status = true) : Taken v a (.answer status body) (v.remove a)
  | missing {body : Option (List UInt8)} (missing : ¬ v.held a ∨ ¬ v.Knows a) :
      Taken v a (.answer 404 body) v

/-- How a role is shown. -/
inductive Shown (v : Roster) (id : RoleId) : Reply → Prop where
  | found {status : Nat} {body : List UInt8} {w : Json} {r : Role} (known : v.roles id)
      (success : isSuccess status = true) (spelled : Json.ofBytes? body = some w)
      (read : Payload.role? w = some r) (asked : r.id = id) : Shown v id (.answer status (some body))
  | unknown {body : Option (List UInt8)} (unknown : ¬ v.roles id) : Shown v id (.answer 404 body)

/-- How the users who hold a role are listed. -/
inductive Listed (v : Roster) (id : RoleId) : Reply → Prop where
  | found {status : Nat} {body : List UInt8} {w : Json} {us : List User} (known : v.roles id)
      (success : isSuccess status = true) (spelled : Json.ofBytes? body = some w)
      (read : Payload.list? Payload.user? w = some us)
      (holders : ∀ u, u ∈ us.map (·.id) ↔ v.held ⟨u, id⟩) : Listed v id (.answer status (some body))
  | unknown {body : Option (List UInt8)} (unknown : ¬ v.roles id) : Listed v id (.answer 404 body)

variable {σ : Type}

/-- A server whose states are viewed as rosters, and which changes them and tells of them as it is
asked to. -/
structure Serves (send : Transport (StateM σ)) (b : Backend) (view : σ → Roster) : Prop where
  post : ∀ (s : σ) (r : Request) (a : Assignment),
    Reaches b r .post ["roles", a.role.text, "users", a.user.text] →
      Given (view s) a ((send r).run s).1 (view ((send r).run s).2)
  delete : ∀ (s : σ) (r : Request) (a : Assignment),
    Reaches b r .delete ["roles", a.role.text, "users", a.user.text] →
      Taken (view s) a ((send r).run s).1 (view ((send r).run s).2)
  getRole : ∀ (s : σ) (r : Request) (id : RoleId), Reaches b r .get ["roles", id.text] →
    Shown (view s) id ((send r).run s).1 ∧ view ((send r).run s).2 = view s
  members : ∀ (s : σ) (r : Request) (id : RoleId), Reaches b r .get ["roles", id.text, "users"] →
    Listed (view s) id ((send r).run s).1 ∧ view ((send r).run s).2 = view s

/-- The request of a call goes to the call's place with its method. -/
theorem reaches_of_request {b : Backend} {c : Gateway.Call} {r : Request}
    (h : b.request c = .ok r) : Reaches b r c.method c.place := by
  obtain ⟨located, hlocated, rfl⟩ := Backend.request_eq_ok h
  unfold Url.extend? at hlocated
  cases hpath : b.baseUrl.path with
  | rootless text => rw [hpath] at hlocated; cases hlocated
  | segments segments =>
    rw [hpath] at hlocated
    have heq := Option.some.inj hlocated
    have hbare : ∀ u : Url, (bareUrl u).path = u.path ∧ (bareUrl u).scheme = u.scheme ∧
        (bareUrl u).query = u.query ∧ (bareUrl u).authority.map (fun a => (a.host, a.port))
          = u.authority.map fun a => (a.host, a.port) := by
      intro u
      unfold bareUrl Url.withoutCredentials
      split
      · exact ⟨rfl, rfl, rfl, by cases u.authority <;> rfl⟩
      · exact ⟨rfl, rfl, rfl, rfl⟩
    obtain ⟨hp, hs, hq, ha⟩ := hbare located
    subst heq
    refine ⟨rfl, ⟨segments, hpath, ?_⟩, ⟨hs, ha⟩, hq, fun token ht => ?_, fun tenant ht => ?_⟩
    · rw [← stem_eq_trunk]
      exact hp
    · refine List.mem_append_left _ (List.mem_append_right _ (List.mem_map.mpr ⟨token, ?_, rfl⟩))
      exact Option.mem_toList.mpr ht
    · exact List.mem_append_right _ (List.mem_map.mpr ⟨tenant, Option.mem_toList.mpr ht, rfl⟩)

/-! ## The gateway of a server -/

section Steps

variable {send : Transport (StateM σ)} {b : Backend} {view : σ → Roster}

/-- A status of success is settled with success. -/
theorem settle_of_success {activity : String} {url : Url} {status : Nat}
    {body : Option (List UInt8)} (h : isSuccess status = true) :
    settle activity url (.answer status body) = .ok ⟨url, body⟩ := by
  rw [settle, if_pos h]

theorem settle_notFound (activity : String) (url : Url) (body : Option (List UInt8)) :
    ∃ fault, settle activity url (.answer 404 body) = .error fault ∧ fault.kind = .notFound :=
  ⟨_, rfl, rfl⟩

theorem settle_conflict (activity : String) (url : Url) (body : Option (List UInt8)) :
    ∃ fault, settle activity url (.answer 409 body) = .error fault ∧ fault.kind = .conflict :=
  ⟨_, rfl, rfl⟩

/-- Every call reaches the server, and comes to what the answer is settled to. -/
theorem exists_exchanged (hb : b.Usable) (send : Transport (StateM σ)) (c : Gateway.Call) (s : σ) :
    ∃ (r : Request) (reply : Reply) (s' : σ), b.request c = .ok r ∧
      (send r).run s = (reply, s') ∧ exchanged send b c s = (settle c.activity r.url reply, s') := by
  obtain ⟨r, hr⟩ := hb.exists_request c
  refine ⟨r, _, _, hr, rfl, ?_⟩
  rw [exchanged, hr]
  rfl

/-- A role is shown by the server just if it is on the roster. -/
theorem step_getRole (hb : b.Usable) (hserves : Serves send b view) (id : RoleId) (s : σ) :
    let read := (fetchRole send b (.getRole id)).run.run s
    (view s).Step (.getRole id) (read.1.map .role) (view s) ∧ view read.2 = view s := by
  obtain ⟨r, reply, s', hr, hsend, hexchanged⟩ := exists_exchanged hb send (.getRole id) s
  obtain ⟨hshown, hview⟩ := hserves.getRole s r id (reaches_of_request hr)
  rw [hsend] at hshown hview
  cases hshown with
  | found known success spelled read asked =>
    have hanswered : Answered send b (.getRole id) s _ s' := ⟨r, _, _, hr, hsend, success, spelled⟩
    have hrun := hanswered.run_getRole
    rw [eq_ok_of_toOption ⟨hrun.1, hrun.2.trans read⟩]
    exact ⟨.getRole known asked, hview⟩
  | unknown unknown =>
    obtain ⟨fault, hfault, hkind⟩ := settle_notFound (Gateway.Call.getRole id).activity r.url _
    rw [run_fetchRole, hexchanged, hfault]
    exact ⟨.unknownRole unknown hkind, hview⟩

/-- The members that the server lists are those on the roster, and the roster stays. -/
theorem step_members (hb : b.Usable) (hserves : Serves send b view) (id : RoleId) (s : σ) :
    let read := (fetch send b (Payload.list? Payload.user?) (.members id)).run.run s
    (view s).Step (.members id) (read.1.map .users) (view s) ∧ view read.2 = view s := by
  obtain ⟨r, reply, s', hr, hsend, hexchanged⟩ := exists_exchanged hb send (.members id) s
  obtain ⟨hlisted, hview⟩ := hserves.members s r id (reaches_of_request hr)
  rw [hsend] at hlisted hview
  cases hlisted with
  | found known success spelled read holders =>
    have hanswered : Answered send b (.members id) s _ s' := ⟨r, _, _, hr, hsend, success, spelled⟩
    have hrun := hanswered.run_fetch (Payload.list? Payload.user?)
    rw [eq_ok_of_toOption ⟨hrun.1, hrun.2.trans read⟩]
    exact ⟨.members known holders, hview⟩
  | unknown unknown =>
    obtain ⟨fault, hfault, hkind⟩ := settle_notFound (Gateway.Call.members id).activity r.url _
    rw [run_fetch, hexchanged, hfault]
    exact ⟨.unknownRole unknown hkind, hview⟩

/-- To give a role through the server is a step of the roster; a conflict is the step that changes
nothing. -/
theorem step_assign (hb : b.Usable) (hserves : Serves send b view) (id : RoleId) (u : UserId) {s : σ}
    (hs : (view s).Coherent) :
    let made := (change send b id (.assign u)).run.run s
    (view s).Step (.change id (.assign u)) (made.1.map fun _ => .done) (view made.2) := by
  obtain ⟨r, reply, s', hr, hsend, hexchanged⟩ := exists_exchanged hb send (.change id (.assign u)) s
  have hgiven := hserves.post s r ⟨u, id⟩ (reaches_of_request hr)
  rw [hsend] at hgiven
  rw [run_assign, hexchanged]
  dsimp only at hgiven
  generalize hw : view s' = w at hgiven
  cases hgiven with
  | added known new success =>
    rw [settle_of_success success]
    show (view s).Step _ (.ok .done) (view s')
    rw [hw]
    exact .assign known
  | heldAlready held =>
    -- the server says that there is nothing to do, and the roster is as if it had been done
    obtain ⟨fault, hfault, hkind⟩ := settle_conflict
      (Gateway.Call.change id (.assign u)).activity r.url _
    rw [hfault]
    dsimp only
    rw [if_pos hkind]
    show (view s).Step _ (.ok .done) (view s')
    have hstep : (view s).Step (.change id (.assign u)) (.ok .done) ((view s).add ⟨u, id⟩) :=
      .assign (hs _ held)
    rw [Roster.add_of_held held] at hstep
    rw [hw]
    exact hstep
  | unknown unknown =>
    obtain ⟨fault, hfault, hkind⟩ := settle_notFound
      (Gateway.Call.change id (.assign u)).activity r.url _
    rw [hfault]
    dsimp only
    rw [if_neg (by rw [hkind]; decide)]
    show (view s).Step _ (.error fault) (view s')
    rw [hw]
    exact .assignUnknown unknown hkind

/-- To take a role away through the server is a step of the roster; if the user is not found to hold
it, the role is asked for to tell why. -/
theorem step_unassign (hb : b.Usable) (hserves : Serves send b view) (id : RoleId) (u : UserId)
    {s : σ} (hs : (view s).Coherent) :
    let made := (change send b id (.unassign u)).run.run s
    (view s).Step (.change id (.unassign u)) (made.1.map fun _ => .done) (view made.2) := by
  obtain ⟨r, reply, s', hr, hsend, hexchanged⟩ := exists_exchanged hb send (.change id (.unassign u)) s
  have htaken := hserves.delete s r ⟨u, id⟩ (reaches_of_request hr)
  rw [hsend] at htaken
  rw [run_unassign, hexchanged]
  dsimp only at htaken
  generalize hw : view s' = w at htaken
  cases htaken with
  | removed held success =>
    rw [settle_of_success success]
    show (view s).Step _ (.ok .done) (view s')
    rw [hw]
    exact .unassign u (hs _ held).1
  | missing missing =>
    have hnot : ¬ (view s).held ⟨u, id⟩ := fun held =>
      missing.elim (fun h => h held) fun h => h (hs _ held)
    obtain ⟨fault, hfault, hkind⟩ := settle_notFound
      (Gateway.Call.change id (.unassign u)).activity r.url _
    rw [hfault]
    dsimp only
    rw [if_pos hkind]
    -- whether the role is there decides, and nothing has changed in either case
    obtain ⟨hfound, hview⟩ := step_getRole hb hserves id s'
    generalize (fetchRole send b (.getRole id)).run.run s' = found at hfound hview
    obtain ⟨answer, s''⟩ := found
    show (view s).Step _ ((answer.map fun _ => ()).map fun _ => .done) (view s'')
    rw [hview, hw]
    rw [hw] at hfound
    cases answer with
    | ok role =>
      cases hfound with
      | getRole known =>
        have hstep : (view s).Step (.change id (.unassign u)) (.ok .done)
          ((view s).remove ⟨u, id⟩) := .unassign u known
        rwa [Roster.remove_of_not_held hnot] at hstep
    | error fault =>
      cases hfound with
      | unknownRole unknown kind => exact .unknownRole unknown kind

/-- Behind its gateway a server of memberships goes by rosters. -/
theorem goesBy_gateway (hb : b.Usable) (hserves : Serves send b view)
    (dispatch : Dispatch (StateM σ)) :
    GoesBy (gateway send dispatch b) view fun s => (view s).Coherent := by
  intro s hs c
  have hstep : (view s).Step c ((c.make (gateway send dispatch b)).run.run s).1
      (view ((c.make (gateway send dispatch b)).run.run s).2) := by
    cases c with
    | change id o =>
      rw [run_make_change]
      cases o with
      | assign u => exact step_assign hb hserves id u hs
      | unassign u => exact step_unassign hb hserves id u hs
    | getRole id =>
      obtain ⟨hread, hview⟩ := step_getRole hb hserves id s
      rw [run_make_getRole]
      exact hview.symm ▸ hread
    | members id =>
      obtain ⟨hread, hview⟩ := step_members hb hserves id s
      rw [run_make_members]
      exact hview.symm ▸ hread
  exact ⟨hstep, hstep.coherent hs⟩

end Steps

/-- **One membership backend.** Take any server that keeps roles, users and memberships and answers
for them as is usual, and the store left by any run of invocations in which no calls are made to
fail. If both start from the same roster, then whatever calls about members are made to both, they
answer alike, call by call, and keep the same roster. On either of them a change to a role's members
that was made can be made again, and then changes nothing. -/
theorem same_memberships {send : Transport (StateM σ)} {b : Backend} {view : σ → Roster}
    (hb : b.Usable) (hserves : Serves send b view) (dispatch : Dispatch (StateM σ))
    (m : Store.Moment) (history : List Store.Invocation)
    (hwilling : ∀ u, u ∉ (Store.empty.undergo history).failing) (s : σ)
    (hmatch : view s = (Store.empty.undergo history).roster) (calls : List MemberCall) :
    let g := gateway send dispatch b
    let store := Store.gateway m.fresh m.now
    let ran := (MemberCall.run g calls).run s
    let ran' := (MemberCall.run store calls).run (Store.empty.undergo history)
    List.Forall₂ Agree ran.1 ran'.1 ∧ view ran.2 = ran'.2.roster ∧
    ∀ (id : RoleId) (o : Operation),
      (((g.change id o).run.run ran.2).1 = .ok () →
        let left := ((g.change id o).run.run ran.2).2
        ((g.change id o).run.run left).1 = .ok () ∧
          view ((g.change id o).run.run left).2 = view left) ∧
      (((store.change id o).run.run ran'.2).1 = .ok () →
        let left := ((store.change id o).run.run ran'.2).2
        ((store.change id o).run.run left).1 = .ok () ∧
          ((store.change id o).run.run left).2.roster = left.roster) := by
  intro g store ran ran'
  have hg : GoesBy g view fun s => (view s).Coherent := goesBy_gateway hb hserves dispatch
  have hstore : GoesBy store Store.roster Store.Willing := Store.goesBy_gateway m
  have hintact : (Store.empty.undergo history).Intact := Store.intact_undergo history
  obtain ⟨hagree, hsame, hcoherent, hwilling'⟩ :=
    hg.alike hstore (hmatch ▸ hintact.coherent) ⟨hintact, hwilling⟩ hmatch calls
  exact ⟨hagree, hsame, fun id o => ⟨hg.again hcoherent, hstore.again hwilling'⟩⟩

/-! ## A server with one role and one user -/

open Store (editorsId editors ada)

/-- The place that a request is for. -/
def place? (r : Request) : Option (List String) :=
  match r.url.path with
  | .segments ("api" :: "v1" :: place) => some place
  | _ => none

/-- A body. -/
def spelling (text : String) : Option (List UInt8) := some (Text.Utf8.encode text.toList)

def editorsBody : String :=
  "\x7b\"id\":\"00000000-0000-0000-0000-000000000007\",\"name\":\"Editors\"\x7d"

def adaBody : String :=
  "[\x7b\"id\":\"00000000-0000-0000-0000-000000000001\",\"username\":\"ada\"\x7d]"

/-- A server that knows the editors and one user, and whether she is one of them. -/
def clerk : Transport (StateM Bool) := fun r holds =>
  match r.method, place? r with
  | .get, some ["roles", id] =>
    if id = editorsId.text then (.answer 200 (spelling editorsBody), holds)
    else (.answer 404 none, holds)
  | .get, some ["roles", id, "users"] =>
    if id = editorsId.text then
      (.answer 200 (spelling (if holds then adaBody else "[]")), holds)
    else (.answer 404 none, holds)
  | .post, some ["roles", id, "users", u] =>
    if id = editorsId.text ∧ u = ada.id.text then
      (.answer (if holds then 409 else 201) none, true)
    else (.answer 404 none, holds)
  | .delete, some ["roles", id, "users", u] =>
    if id = editorsId.text ∧ u = ada.id.text then
      (.answer (if holds then 204 else 404) none, false)
    else (.answer 404 none, holds)
  | _, _ => (.answer 404 none, holds)

/-- The roster of the server. -/
def clerkRoster (holds : Bool) : Roster where
  roles id := id = editorsId
  users u := u = ada.id
  held a := holds = true ∧ a = ⟨ada.id, editorsId⟩

/-- The clerk finds the place that a request is for. -/
theorem place?_of_reaches {r : Request} {method : Method} {place : List String}
    (h : Reaches office r method place) : place? r = some place := by
  obtain ⟨segments, hbase, hpath⟩ := h.path
  cases hbase
  rw [place?, hpath]
  rfl

theorem clerkRoster_true :
    clerkRoster true = (clerkRoster false).add ⟨ada.id, editorsId⟩ :=
  Roster.ext rfl rfl (funext fun x => by simp [clerkRoster, Roster.add])

theorem clerkRoster_false :
    clerkRoster false = (clerkRoster true).remove ⟨ada.id, editorsId⟩ :=
  Roster.ext rfl rfl (funext fun x => by simp [clerkRoster, Roster.remove])

/-- The server knows one assignment, by the texts of its ids. -/
theorem eq_of_texts {a : Assignment}
    (h : a.role.text = editorsId.text ∧ a.user.text = ada.id.text) : a = ⟨ada.id, editorsId⟩ :=
  Assignment.ext (Id.text_inj h.2) (Id.text_inj h.1)

/-- The clerk has one role and one user, and so one assignment to know of. -/
theorem eq_of_knows {holds : Bool} {a : Assignment} (h : (clerkRoster holds).Knows a) :
    a = ⟨ada.id, editorsId⟩ :=
  Assignment.ext h.2 h.1

set_option maxRecDepth 4000 in
theorem read?_editorsBody : Json.read? editorsBody
    = some (.record [("id", .ofText "00000000-0000-0000-0000-000000000007"),
      ("name", .ofText "Editors")]) := by
  cbv

set_option maxRecDepth 4000 in
theorem read?_adaBody : Json.read? adaBody
    = some (.array [.record [("id", .ofText "00000000-0000-0000-0000-000000000001"),
      ("username", .ofText "ada")]]) := by
  cbv

/-- What the server sends for the editors is a role with their id. -/
theorem exists_editors : ∃ (w : Json) (r : Role),
    Json.read? editorsBody = some w ∧ Payload.role? w = some r ∧ r.id = editorsId := by
  refine ⟨_, .named ⟨"Editors", by decide, by decide⟩ { id := editorsId, name := "Editors" },
    read?_editorsBody, ?_, rfl⟩
  decide +kernel

/-- What the server sends for the members lists her if she is one of them. -/
theorem exists_members (holds : Bool) : ∃ (w : Json) (us : List User),
    Json.read? (if holds then adaBody else "[]") = some w ∧
      Payload.list? Payload.user? w = some us ∧
      us.map (·.id) = if holds then [ada.id] else [] := by
  cases holds with
  | true => exact ⟨_, [ada], read?_adaBody, by decide +kernel, rfl⟩
  | false => exact ⟨.array [], [], rfl, rfl, rfl⟩

/-- The clerk answers as a server of its roster has to. -/
theorem serves_clerk : Serves clerk office clerkRoster where
  post s r a h := by
    have hrun : clerk r s = if a.role.text = editorsId.text ∧ a.user.text = ada.id.text then
        (.answer (if s then 409 else 201) none, true) else (.answer 404 none, s) := by
      rw [clerk, h.method, place?_of_reaches h]
      rfl
    show Given (clerkRoster s) a (clerk r s).1 (clerkRoster (clerk r s).2)
    rw [hrun]
    split
    next ha =>
      cases eq_of_texts ha
      cases s with
      | false =>
        show Given (clerkRoster false) _ (.answer 201 none) (clerkRoster true)
        rw [clerkRoster_true]
        exact .added ⟨rfl, rfl⟩ (fun held => nomatch held.1) rfl
      | true => exact .heldAlready ⟨rfl, rfl⟩
    next ha => exact .unknown fun known => ha (by cases eq_of_knows known; exact ⟨rfl, rfl⟩)
  delete s r a h := by
    have hrun : clerk r s = if a.role.text = editorsId.text ∧ a.user.text = ada.id.text then
        (.answer (if s then 204 else 404) none, false) else (.answer 404 none, s) := by
      rw [clerk, h.method, place?_of_reaches h]
      rfl
    show Taken (clerkRoster s) a (clerk r s).1 (clerkRoster (clerk r s).2)
    rw [hrun]
    split
    next ha =>
      cases eq_of_texts ha
      cases s with
      | false => exact .missing (Or.inl fun held => nomatch held.1)
      | true =>
        show Taken (clerkRoster true) _ (.answer 204 none) (clerkRoster false)
        rw [clerkRoster_false]
        exact .removed ⟨rfl, rfl⟩ rfl
    next ha =>
      exact .missing (Or.inr fun known => ha (by cases eq_of_knows known; exact ⟨rfl, rfl⟩))
  getRole s r id h := by
    have hrun : clerk r s = if id.text = editorsId.text then
        (.answer 200 (spelling editorsBody), s) else (.answer 404 none, s) := by
      rw [clerk, h.method, place?_of_reaches h]
      rfl
    show Shown (clerkRoster s) id (clerk r s).1 ∧ clerkRoster (clerk r s).2 = clerkRoster s
    rw [hrun]
    by_cases hid : id = editorsId
    · obtain ⟨w, role, hspelled, hread, hasked⟩ := exists_editors
      rw [if_pos (congrArg Id.text hid)]
      exact ⟨.found hid rfl hspelled hread (hasked.trans hid.symm), rfl⟩
    · rw [if_neg fun he => hid (Id.text_inj he)]
      exact ⟨.unknown hid, rfl⟩
  members s r id h := by
    have hrun : clerk r s = if id.text = editorsId.text then
        (.answer 200 (spelling (if s then adaBody else "[]")), s) else (.answer 404 none, s) := by
      rw [clerk, h.method, place?_of_reaches h]
      rfl
    show Listed (clerkRoster s) id (clerk r s).1 ∧ clerkRoster (clerk r s).2 = clerkRoster s
    rw [hrun]
    by_cases hid : id = editorsId
    · subst hid
      obtain ⟨w, us, hspelled, hread, hids⟩ := exists_members s
      rw [if_pos rfl]
      refine ⟨.found rfl rfl hspelled hread fun u => ?_, rfl⟩
      rw [hids]
      cases s <;> simp [clerkRoster]
    · rw [if_neg fun he => hid (Id.text_inj he)]
      exact ⟨.unknown hid, rfl⟩

/-- The editors and the user put into an empty store. -/
def hired : List Store.Invocation :=
  [.act (.insertRole (editors false 0)), .act (.insertUser ada)]

/-- The clerk starts with the roster of a store with one role and one user. -/
theorem roster_hired : clerkRoster false = (Store.empty.undergo hired).roster := by
  have hone : ∀ {κ α : Type} [Ranked κ] (k k' : κ) (a : α),
      ((SortedMap.empty : SortedMap κ α).insert k a).contains k' = true ↔ k' = k := by
    intro κ α _ k k' a
    rw [SortedMap.contains, Option.isSome_iff_exists]
    simp only [SortedMap.find?_insert_eq_some_iff, SortedMap.find?_empty]
    simp [eq_comm]
  refine Roster.ext (funext fun id => propext (hone _ _ _).symm)
    (funext fun u => propext (hone _ _ _).symm) (funext fun a => propext ?_)
  exact ⟨fun held => absurd held.1 Bool.false_ne_true,
    fun held => absurd held (SortedSet.not_mem_empty a)⟩

/-- The user becomes an editor, once and again, is listed, and is none any more. -/
theorem same_memberships_clerk :
    let calls : List MemberCall := [.change editorsId (.assign ada.id),
      .change editorsId (.assign ada.id), .members editorsId, .getRole editorsId,
      .change editorsId (.unassign ada.id), .change editorsId (.unassign ada.id)]
    let ran := (MemberCall.run (gateway clerk inTurn office) calls).run false
    let ran' := (MemberCall.run (Store.gateway Store.someMoment.fresh Store.someMoment.now) calls).run
      (Store.empty.undergo hired)
    List.Forall₂ Agree ran.1 ran'.1 ∧ clerkRoster ran.2 = ran'.2.roster := by
  intro calls ran ran'
  obtain ⟨hagree, hsame, -⟩ := same_memberships usable_office serves_clerk inTurn Store.someMoment
    hired (fun u => SortedSet.not_mem_empty u) false roster_hired calls
  exact ⟨hagree, hsame⟩

end Rolebook.Http
