import Rolebook.Proofs.Administrator.Watched
import Rolebook.Proofs.Http.Dialogue
import Rolebook.Proofs.Http.Payload
import Rolebook.Proofs.Http.Sendable
import Rolebook.Proofs.Membership.Talk

/-!
# Which replies make a membership call succeed

What a membership call comes to is decided by the replies to it alone. `Goes` says how such a call
can go: one request, and a second one only after a user was not found to hold a role. `Granted` says
which replies are success; the two are brought together by `Goes.ok_iff`.

A batch is made of such calls, which may come in two goes, with requests of other calls in between
(`inTwo`). As long as no call takes too long, what is reported of each operation is what the replies
to its own call have it (`changes_as_answered`).
-/

namespace Rolebook.Http

open Dialogue (single noted through)

/-! ## Replies -/

namespace Reply

/-- The status of an answer. -/
def status? : Reply → Option Nat
  | answer status _ => some status
  | dropped | late => none

/-- An answer with a status of success. -/
def Succeeds (reply : Reply) : Prop := ∃ status ∈ reply.status?, 200 ≤ status ∧ status ≤ 299

/-- An answer with a status of success and a body that is read as a role. -/
def ShowsRole (reply : Reply) : Prop :=
  ∃ status body v role, reply = answer status (some body) ∧ (200 ≤ status ∧ status ≤ 299) ∧
    Json.ofBytes? body = some v ∧ Payload.role? v = some role

/-- A reply of success does not say that something is missing. -/
theorem Succeeds.status_ne {reply : Reply} (h : reply.Succeeds) : reply.status? ≠ some 404 := by
  obtain ⟨status, hmem, hstatus⟩ := h
  intro h404
  have : status = 404 := Option.some.inj (hmem.symm.trans h404)
  omega

end Reply

section Settle

variable {activity : String} {url : Url} {reply : Reply}

theorem isSuccess_iff {status : Nat} : isSuccess status = true ↔ 200 ≤ status ∧ status ≤ 299 := by
  rw [isSuccess, Bool.and_eq_true, decide_eq_true_eq, decide_eq_true_eq]

/-- A request is settled with success just if the status is one of success; the body is not looked
at. -/
theorem settle_eq_ok_iff {success : Success} :
    settle activity url reply = .ok success ↔
      ∃ status body, reply = .answer status body ∧ (200 ≤ status ∧ status ≤ 299) ∧
        success = ⟨url, body⟩ := by
  constructor
  · intro h
    cases reply with
    | answer status body =>
      rw [settle] at h
      split at h
      next hstatus => exact ⟨status, body, rfl, isSuccess_iff.mp hstatus, (Except.ok.inj h).symm⟩
      next => cases h
    | dropped | late => cases h
  · rintro ⟨status, body, rfl, hstatus, rfl⟩
    rw [settle, if_pos (isSuccess_iff.mpr hstatus)]

theorem succeeds_of_settle {success : Success} (h : settle activity url reply = .ok success) :
    reply.Succeeds := by
  obtain ⟨status, _, rfl, hstatus, -⟩ := settle_eq_ok_iff.mp h
  exact ⟨status, rfl, hstatus⟩

theorem settle_map_eq_ok_iff :
    (settle activity url reply).map (fun _ => ()) = .ok () ↔ reply.Succeeds := by
  rw [map_eq_ok_iff]
  constructor
  · rintro ⟨_, h, -⟩
    exact succeeds_of_settle h
  · rintro ⟨status, hmem, hstatus⟩
    cases reply with
    | answer _ body =>
      cases hmem
      exact ⟨_, settle_eq_ok_iff.mpr ⟨status, body, rfl, hstatus, rfl⟩, rfl⟩
    | dropped | late => cases hmem

/-- A status is told by the kind of a fault only where the kind stands for one status alone. -/
theorem kindOfStatus_eq_iff {status : Nat} :
    (Fault.kindOfStatus status = .notFound ↔ status = 404) ∧
      (Fault.kindOfStatus status = .conflict ↔ status = 409) := by
  constructor <;> refine ⟨fun h => ?_, fun h => h ▸ rfl⟩
  all_goals
    unfold Fault.kindOfStatus at h
    split_ifs at h
    assumption

/-- Only an answer with the very status is taken for something that is not there, or for something
that is there already. -/
theorem kind_of_settle {fault : Fault} (h : settle activity url reply = .error fault) :
    (fault.kind = .notFound ↔ reply.status? = some 404) ∧
      (fault.kind = .conflict ↔ reply.status? = some 409) := by
  cases reply with
  | answer status body =>
    rw [settle] at h
    split at h
    · cases h
    · cases h
      simp only [Fault.kind, kindOfStatus_eq_iff, Reply.status?, Option.some.injEq, and_self]
  | dropped | late =>
    cases h
    simp [Fault.kind, Reply.status?]

end Settle

/-! ## Calls -/

section Calls

variable {b : Backend} {c : Gateway.Call} {r : Request} {fault : Fault}

/-- A request that cannot be put together is not taken for something else. -/
theorem kind_of_unsent (h : b.request c = .error fault) :
    fault.kind ≠ .conflict ∧ fault.kind ≠ .notFound := by
  unfold Backend.request Backend.locate at h
  cases hlocated : b.baseUrl.extend? ("api" :: "v1" :: c.place) with
  | none =>
    rw [hlocated] at h
    cases h
    exact ⟨nofun, nofun⟩
  | some located =>
    rw [hlocated] at h
    change (if !(bareUrl located).hasHost then _ else if !(b.token.all Backend.isHeaderValue) then _
      else if !Backend.isSendable (bareUrl located) then _ else _) = _ at h
    split_ifs at h <;> cases h <;> exact ⟨nofun, nofun⟩

/-- What is made of the only reply to a call can be made into something else. -/
theorem once_bind {α β : Type} {x : Attempt Dialogue α} {g : Reply → Except Fault α}
    (h : x.run = .ask r fun reply => .done (g reply)) (f : α → Except Fault β) :
    (x >>= fun a => liftExcept (f a)).run = .ask r fun reply => .done (g reply >>= f) := by
  show x.run.andThen _ = _
  rw [h]
  refine congrArg (Dialogue.ask r) (funext fun reply => ?_)
  show Dialogue.andThen (.done (g reply)) _ = _
  cases g reply with
  | error fault => rfl
  | ok a =>
    show ExceptT.run (liftExcept (f a)) = Dialogue.done (f a)
    cases f a <;> rfl

/-- Where a request can be put together, a call asks one thing. -/
theorem exchange_single (h : b.request c = .ok r) :
    (exchange single b c).run = .ask r fun reply => .done (settle c.activity r.url reply) := by
  rw [exchange, h]
  exact once_bind rfl (settle c.activity r.url)

/-- Where no request can be put together, nothing is said. -/
theorem exchange_single_unsent (h : b.request c = .error fault) :
    (exchange single b c).run = .done (.error fault) := by
  rw [exchange, h]
  rfl

/-- To ask for a role is to send one request and to read the reply. -/
theorem fetchRole_single (h : b.request c = .ok r) :
    (fetchRole single b c).run = .ask r fun reply => .done
      (settle c.activity r.url reply >>= decode Payload.roleInput? c.activity >>= Role.ofInput) :=
  once_bind (once_bind (exchange_single h) _) Role.ofInput

/-- The call that gives a user a role asks once, and a conflict is no failure. -/
theorem assign_single {role : RoleId} {u : UserId}
    (h : b.request (.change role (.assign u)) = .ok r) :
    (change single b role (.assign u)).run = .ask r fun reply => .done
      (if reply.status? = some 409 then .ok ()
        else (settle "assign role" r.url reply).map fun _ => ()) := by
  show ((exchange single b _).run.andThen _).andThen _ = _
  rw [exchange_single h]
  refine congrArg (Dialogue.ask r) (funext fun reply => ?_)
  show (Dialogue.andThen (.done (settle "assign role" r.url reply)) _).andThen _ = _
  cases hs : settle "assign role" r.url reply with
  | ok success => exact congrArg Dialogue.done (ite_self _).symm
  | error fault =>
    -- the call looks at the kind of the fault, and only one status has this kind
    show ExceptT.run (if fault.kind = .conflict then pure () else throw fault)
      = Dialogue.done (if reply.status? = some 409 then .ok () else .error fault)
    simp only [(kind_of_settle hs).2]
    split <;> rfl

/-- The call that takes a role from a user asks once, and then asks for the role if nothing was
found. -/
theorem unassign_single {role : RoleId} {u : UserId}
    (h : b.request (.change role (.unassign u)) = .ok r) :
    (change single b role (.unassign u)).run = .ask r fun reply =>
      if reply.status? = some 404 then
        (fetchRole single b (.getRole role)).run.andThen fun found =>
          .done (found.map fun _ => ())
      else .done ((settle "unassign role" r.url reply).map fun _ => ()) := by
  show ((exchange single b _).run.andThen _).andThen _ = _
  rw [exchange_single h]
  refine congrArg (Dialogue.ask r) (funext fun reply => ?_)
  show (Dialogue.andThen (.done (settle "unassign role" r.url reply)) _).andThen _ = _
  cases hs : settle "unassign role" r.url reply with
  | ok success =>
    rw [if_neg (succeeds_of_settle hs).status_ne]
    rfl
  | error fault =>
    show ExceptT.run (if fault.kind = .notFound then
      fetchRole single b (.getRole role) >>= fun _ => pure () else throw fault) = _
    simp only [(kind_of_settle hs).1]
    split
    · refine congrArg (Dialogue.andThen (fetchRole single b (.getRole role)).run)
        (funext fun found => ?_)
      cases found <;> rfl
    · rfl

/-- A membership call without a request fails and says nothing. -/
theorem change_single_unsent {role : RoleId} {o : Operation}
    (h : b.request (.change role o) = .error fault) :
    (change single b role o).run = .done (.error fault) := by
  have hkind : fault.kind ≠ .conflict ∧ fault.kind ≠ .notFound := kind_of_unsent h
  show ((exchange single b _).run.andThen _).andThen _ = _
  rw [exchange_single_unsent h]
  cases o with
  | assign u =>
    show ExceptT.run (if fault.kind = .conflict then pure () else throw fault) = _
    rw [if_neg hkind.1]
    rfl
  | unassign u =>
    show ExceptT.run (if fault.kind = .notFound then
      fetchRole single b (.getRole role) >>= fun _ => pure () else throw fault) = _
    rw [if_neg hkind.2]
    rfl

end Calls

/-! ## Asking for a role -/

section RoleIn

variable {b : Backend} {role : RoleId} {r : Request} {reply : Reply}

/-- What who asks for a role gets from a server that always replies so. -/
def roleIn (b : Backend) (role : RoleId) (reply : Reply) : Except Fault Role :=
  let always : Transport (StateM Unit) := fun _ => pure reply
  ((fetchRole always b (.getRole role)).run.run ()).1

/-- The role in a reply is what the request for the role would come to. -/
theorem roleIn_eq (h : b.request (.getRole role) = .ok r) :
    roleIn b role reply =
      (settle "get role" r.url reply >>= decode Payload.roleInput? "get role" >>= Role.ofInput) := by
  have hreply : (StateT.run (pure reply : StateM Unit Reply) ()).1 = reply := rfl
  rw [roleIn, run_fetchRole, exchanged, h]
  dsimp only
  rw [hreply, Gateway.Call.activity]
  cases settle "get role" r.url reply <;> rfl

/-- What is read of a reply is a value that its body spells. -/
theorem decode_eq_ok_iff {α : Type} {read : Json → Option α} {activity : String} {success : Success}
    {a : α} : decode read activity success = .ok a ↔
      ∃ body v, success.body = some body ∧ Json.ofBytes? body = some v ∧ read v = some a := by
  rw [decode]
  constructor
  · intro h
    cases hread : (success.body.bind Json.ofBytes?).bind read with
    | none => rw [hread] at h; cases h
    | some a' =>
      rw [hread] at h
      cases h
      obtain ⟨v, hv, ha⟩ := Option.bind_eq_some_iff.mp hread
      obtain ⟨body, hbody, hv⟩ := Option.bind_eq_some_iff.mp hv
      exact ⟨body, v, hbody, hv, ha⟩
  · rintro ⟨body, v, hbody, hv, ha⟩
    rw [hbody, Option.bind_some, hv, Option.bind_some, ha]

/-- A role is there if the reply shows one, and only then. -/
theorem roleIn_eq_ok_iff (h : b.request (.getRole role) = .ok r) :
    (roleIn b role reply).map (fun _ => ()) = .ok () ↔ reply.ShowsRole := by
  simp only [roleIn_eq h, map_eq_ok_iff, bind_eq_ok_iff, settle_eq_ok_iff, decode_eq_ok_iff]
  constructor
  · rintro ⟨role, ⟨input, ⟨_, ⟨status, _, rfl, hstatus, rfl⟩, body, v, rfl, hv, hinput⟩, hrole⟩, -⟩
    refine ⟨status, body, v, role, rfl, hstatus, hv, ?_⟩
    rw [Payload.role?, hinput, Option.bind_some, hrole]
    rfl
  · rintro ⟨status, body, v, role, rfl, hstatus, hv, hrole⟩
    obtain ⟨input, hinput, hrole⟩ := Option.bind_eq_some_iff.mp hrole
    exact ⟨role, ⟨input, ⟨_, ⟨status, some body, rfl, hstatus, rfl⟩, body, v, rfl, hv, hinput⟩,
      toOption_eq_some_iff.mp hrole⟩, trivial⟩

/-- No role is there if the server says so. -/
theorem roleIn_of_missing (h : b.request (.getRole role) = .ok r)
    (hreply : reply.status? = some 404) :
    ∃ fault, roleIn b role reply = .error fault ∧ fault.kind = .notFound := by
  rw [roleIn_eq h]
  cases hs : settle "get role" r.url reply with
  | ok success => exact absurd hreply (succeeds_of_settle hs).status_ne
  | error fault => exact ⟨fault, rfl, (kind_of_settle hs).1.mpr hreply⟩

end RoleIn

/-! ## How a membership call goes -/

/-- What is said in a membership call, and what comes of it. -/
inductive Goes (b : Backend) (role : RoleId) : Operation → List Said → Except Fault Unit → Prop where
  /-- There is no request for the call, so nothing is sent. -/
  | unsent {o : Operation} {fault : Fault} (none : b.request (.change role o) = .error fault) :
      Goes b role o [] (.error fault)
  /-- A user gets the role, or holds it already. -/
  | assign {u : UserId} {r : Request} (sent : b.request (.change role (.assign u)) = .ok r)
      (method : r.method = .post) (reply : Reply) :
      Goes b role (.assign u) [⟨r, reply⟩]
        (if reply.status? = some 409 then .ok ()
          else (settle "assign role" r.url reply).map fun _ => ())
  /-- A user loses the role. -/
  | unassign {u : UserId} {r : Request} (sent : b.request (.change role (.unassign u)) = .ok r)
      (method : r.method = .delete) {reply : Reply} (found : reply.status? ≠ some 404) :
      Goes b role (.unassign u) [⟨r, reply⟩]
        ((settle "unassign role" r.url reply).map fun _ => ())
  /-- A user is not found to hold the role, and the role is asked for. -/
  | lookUp {u : UserId} {r r' : Request} (sent : b.request (.change role (.unassign u)) = .ok r)
      (method : r.method = .delete) {reply : Reply} (missing : reply.status? = some 404)
      (sent' : b.request (.getRole role) = .ok r') (method' : r'.method = .get) (reply' : Reply) :
      Goes b role (.unassign u) [⟨r, reply⟩, ⟨r', reply'⟩]
        ((roleIn b role reply').map fun _ => ())

/-- The replies that make a membership call succeed. -/
def Granted : Operation → List Reply → Prop
  | .assign _, [reply] => reply.Succeeds ∨ reply.status? = some 409
  | .unassign _, [reply] => reply.Succeeds
  | .unassign _, [reply, reply'] => reply.status? = some 404 ∧ reply'.ShowsRole
  | _, _ => False

section Goes

variable {b : Backend} {role : RoleId} {o : Operation} {talk : List Said}
  {result : Except Fault Unit}

/-- The request of a call goes by the method of the call. -/
theorem Backend.method_of_request {c : Gateway.Call} {r : Request} (h : b.request c = .ok r) :
    r.method = c.method := by
  obtain ⟨_, -, rfl⟩ := Backend.request_eq_ok h
  rfl

/-- The place of a role is a part of the places of its members. -/
theorem exists_request_getRole {r : Request} (h : b.request (.change role o) = .ok r) :
    ∃ r', b.request (.getRole role) = .ok r' := by
  refine Backend.exists_request_of_shorter h ?_
  show pathSize ["roles", role.text] ≤ pathSize (["roles", role.text] ++ ["users", o.user.text])
  rw [pathSize_append]
  exact Nat.le_add_right ..

/-- A membership call goes in one of these ways. -/
theorem goes_of_way (h : (change single b role o).run.Says talk result) :
    Goes b role o talk result := by
  cases hr : b.request (.change role o) with
  | error fault =>
    rw [change_single_unsent hr] at h
    obtain ⟨rfl, rfl⟩ := Dialogue.says_done_iff.mp h
    exact .unsent hr
  | ok r =>
    cases o with
    | assign u =>
      rw [assign_single hr] at h
      obtain ⟨reply, later, rfl, hlater⟩ := Dialogue.says_ask_iff.mp h
      obtain ⟨rfl, rfl⟩ := Dialogue.says_done_iff.mp hlater
      exact .assign hr (Backend.method_of_request hr) reply
    | unassign u =>
      rw [unassign_single hr] at h
      obtain ⟨reply, later, rfl, hlater⟩ := Dialogue.says_ask_iff.mp h
      by_cases hmissing : reply.status? = some 404
      · -- the request for the role can be put together if the one before it could
        obtain ⟨r', hr'⟩ := exists_request_getRole hr
        rw [if_pos hmissing, fetchRole_single hr'] at hlater
        obtain ⟨reply', later, rfl, hlast⟩ := Dialogue.says_ask_iff.mp hlater
        obtain ⟨rfl, rfl⟩ := Dialogue.says_done_iff.mp hlast
        have hgoes := Goes.lookUp hr (Backend.method_of_request hr) hmissing hr'
          (Backend.method_of_request hr') reply'
        rw [roleIn_eq hr'] at hgoes
        exact hgoes
      · rw [if_neg hmissing] at hlater
        obtain ⟨rfl, rfl⟩ := Dialogue.says_done_iff.mp hlater
        exact .unassign hr (Backend.method_of_request hr) hmissing

/-- A call succeeds with the replies that make it succeed, and with no others. -/
theorem Goes.ok_iff (h : Goes b role o talk result) :
    result = .ok () ↔ Granted o (talk.map (·.reply)) := by
  cases h with
  | unsent none => cases o <;> exact ⟨nofun, nofun⟩
  | assign sent method reply =>
    show _ ↔ reply.Succeeds ∨ reply.status? = some 409
    split
    next h => exact ⟨fun _ => Or.inr h, fun _ => rfl⟩
    next h => rw [settle_map_eq_ok_iff, or_iff_left h]
  | unassign sent method found => exact settle_map_eq_ok_iff
  | lookUp sent method missing sent' method' reply' =>
    exact (roleIn_eq_ok_iff sent').trans (and_iff_right missing).symm

/-- A call that takes a role away fails if the role is not found when it is asked for. -/
theorem Goes.missing {u : UserId} (h : Goes b role (.unassign u) talk result) {x : Said}
    (hx : x ∈ talk) (hget : x.request.method = .get) (hmissing : x.reply.status? = some 404) :
    ∃ fault, result = .error fault ∧ fault.kind = .notFound := by
  cases h with
  | unsent none => cases hx
  | unassign sent method found =>
    rw [List.mem_singleton.mp hx] at hget
    exact nomatch method.symm.trans hget
  | lookUp sent method missing sent' method' reply' =>
    rcases List.mem_pair.mp hx with rfl | rfl
    · exact nomatch method.symm.trans hget
    · obtain ⟨fault, hfault, hkind⟩ := roleIn_of_missing sent' hmissing
      rw [hfault]
      exact ⟨fault, rfl, hkind⟩

end Goes

/-! ## Batches -/

/-- How the calls of a batch go, each from the time when it begins. -/
structure Pace (σ : Type) where
  /-- How many requests of a call are sent at its beginning; the others are sent at its end. -/
  early : Nat → Operation → Nat
  /-- How long a call takes, as the server stands after its beginning. -/
  delay : Nat → Operation → σ → Nat

section Batches

variable {σ ω : Type} (send : Transport (StateM σ)) (b : Backend) (pace : Pace σ)

/-- A call in two goes, each of which sends some of its requests. -/
def inTwo (send : Operation → Transport (StateM σ)) (b : Backend) (pace : Pace σ) (role : RoleId)
    (clock : Nat) (o : Operation) : StateM σ (Pending σ) := fun s =>
  let begun := ((change single b role o).run.advance (send o) (pace.early clock o)).run s
  (⟨pace.delay clock o begun.2, begun.1.through (send o)⟩, begun.2)

/-- If nothing comes in between, a call in two goes is the call. -/
theorem inTwo_undisturbed (role : RoleId) (clock : Nat) (o : Operation) :
    (inTwo (fun _ => send) b pace role clock o >>= fun begun => begun.finish)
      = (change send b role o).run := by
  rw [← Dialogue.through_change, ← Dialogue.advance_bind_through send (pace.early clock o)]
  rfl

/-- The pace of calls that are kept on record. -/
def Pace.noted (pace : Pace σ) : Pace (σ × List ω) where
  early := pace.early
  delay clock o s := pace.delay clock o s.1

/-- The beginning of a call in two goes, with a record and without. -/
theorem run_inTwo_noted (note : Operation → Said → ω) (role : RoleId) (clock : Nat) (o : Operation)
    (s : σ) (before : List ω) :
    ∃ (left : Dialogue (Except Fault Unit)) (s' : σ) (early : List Said),
      (inTwo (fun o => noted (note o) send) b pace.noted role clock o).run (s, before) =
        (⟨pace.delay clock o s', left.through (noted (note o) send)⟩, s',
          before ++ early.map (note o)) ∧
      (inTwo (fun _ => send) b pace role clock o).run s =
        (⟨pace.delay clock o s', left.through send⟩, s') ∧
      ∀ later result, left.Says later result →
        (change single b role o).run.Says (early ++ later) result := by
  obtain ⟨early, hrun, hlater⟩ := Dialogue.run_advance (note o) send (pace.early clock o)
    (change single b role o).run s before
  refine ⟨_, _, early, ?_, rfl, hlater⟩
  let begun (x : Dialogue (Except Fault Unit) × σ × List ω) :
      Pending (σ × List ω) × σ × List ω :=
    (⟨pace.delay clock o x.2.1, x.1.through (noted (note o) send)⟩, x.2)
  exact congrArg begun hrun

/-- A record makes no difference to a call in two goes. -/
theorem beginsAs_inTwo (note : Operation → Said → ω) (role : RoleId) (clock : Nat) (o : Operation)
    (s : σ × List ω) :
    FanOut.BeginsAs ((inTwo (fun o => noted (note o) send) b pace.noted role clock o).run s)
      ((inTwo (fun _ => send) b pace role clock o).run s.1) := by
  obtain ⟨s, before⟩ := s
  obtain ⟨left, s', early, hnoted, hplain, -⟩ :=
    run_inTwo_noted send b pace note role clock o s before
  rw [hnoted, hplain]
  refine ⟨rfl, fun t => ?_, rfl⟩
  obtain ⟨talk, hrun, -⟩ := Dialogue.run_through (note o) send left t.1 t.2
  exact ⟨congrArg (fun done => done.1) hrun, congrArg (fun done => done.2.1) hrun⟩

/-- What is said in a call in two goes is one of the ways that the call can go. -/
theorem goesBy_inTwo {timeout : Nat} (hpace : ∀ clock o s, pace.delay clock o s ≤ timeout)
    (role : RoleId) :
    FanOut.GoesBy (Goes b role) timeout
      (inTwo (fun o => noted (fun said => (o, said)) send) b pace.noted role) := by
  intro clock o s record
  obtain ⟨left, s', early, hnoted, -, hlater⟩ :=
    run_inTwo_noted send b pace (fun o said => (o, said)) role clock o s record
  rw [hnoted]
  -- other calls may have come in between, so the end is to hold for any state and record
  refine ⟨hpace clock o s', early, rfl, fun t record' => ?_⟩
  obtain ⟨late, hrun, hway⟩ := Dialogue.run_through (fun said => (o, said)) send left t record'
  dsimp only
  rw [hrun]
  exact ⟨late, rfl, goes_of_way (hlater _ _ hway)⟩

/-- A server that keeps no record of what is said outside of batches. -/
def unheard (send : Transport (StateM σ)) : Transport (StateM (σ × List ω)) := fun r s =>
  let (reply, left) := (send r).run s.1
  (reply, left, s.2)

/-- An administrator whose batches are made of calls in two goes. -/
def paced (elapse : Nat → σ → σ) (limits : Limits) : Administrator (StateM σ) :=
  ⟨(gateway send inTurn b).batching (inTwo (fun _ => send) b pace) elapse, limits⟩

/-- The same, where all that is said in a batch goes on record under the operation it is said for.
-/
def overheard (elapse : Nat → σ → σ) (limits : Limits) :
    Administrator (StateM (σ × List (Operation × Said))) :=
  ⟨(gateway (unheard send) inTurn b).batching
    (inTwo (fun o => noted (fun said => (o, said)) send) b pace.noted) (FanOut.watchedElapse elapse),
    limits⟩

/-- What is reported of the operations of a plan is what the replies to their own calls make of
them. -/
structure Told (b : Backend) (plan : Plan) (record : List (Operation × Said)) (report : Report) :
    Prop where
  own : ∀ x ∈ record, x.1 ∈ plan.operations
  each : ∀ o ∈ plan.operations, ∃ result, Goes b plan.role o (FanOut.talkOf o record) result ∧
    ∀ fault, ⟨o, fault⟩ ∈ report.failures ↔ result = .error fault
  succeeded : ∀ o, o ∈ report.succeeded ↔
    o ∈ plan.operations ∧ Granted o ((FanOut.talkOf o record).map (·.reply))
  failed : ∀ f ∈ report.failures, f.operation ∈ plan.operations
  /-- No user is said to have lost a role that the server does not find. -/
  missing : ∀ u : UserId, ∀ x ∈ FanOut.talkOf (.unassign u) record,
    x.request.method = .get → x.reply.status? = some 404 →
      .unassign u ∉ report.succeeded ∧
      ∃ f ∈ report.failures, f.operation = .unassign u ∧ f.fault.kind = .notFound

/-- Outcomes that go with what was said in the calls make such a report. -/
theorem told_ofOutcomes {b : Backend} {plan : Plan} {record : List (Operation × Said)}
    {outcomes : List Outcome}
    (howned : ∀ x ∈ outcomes, x.operation ∈ plan.operations)
    (hrecord : ∀ x ∈ record, x.1 ∈ plan.operations)
    (heach : ∀ o ∈ plan.operations, ∃ result, Goes b plan.role o (FanOut.talkOf o record) result ∧
      ∀ result', ⟨o, result'⟩ ∈ outcomes ↔ result' = result) :
    Told b plan record (.ofOutcomes plan.role outcomes) where
  own := hrecord
  each o ho := by
    obtain ⟨result, hgoes, honly⟩ := heach o ho
    exact ⟨result, hgoes, fun fault =>
      Report.mem_failures_iff.trans ((honly _).trans eq_comm)⟩
  succeeded o := by
    rw [Report.mem_succeeded_iff]
    constructor
    · intro hmem
      obtain ⟨result, hgoes, honly⟩ := heach o (howned _ hmem)
      exact ⟨howned _ hmem, hgoes.ok_iff.mp ((honly _).mp hmem).symm⟩
    · rintro ⟨ho, hgranted⟩
      obtain ⟨result, hgoes, honly⟩ := heach o ho
      exact (honly _).mpr (hgoes.ok_iff.mpr hgranted).symm
  failed f hf := howned _ (Report.mem_failures_iff.mp hf)
  missing u x hx hget hmissing := by
    have ho : .unassign u ∈ plan.operations := by
      obtain ⟨y, hy, -⟩ := List.mem_map.mp hx
      obtain ⟨hy, howner⟩ := List.mem_filter.mp hy
      exact of_decide_eq_true howner ▸ hrecord y hy
    obtain ⟨result, hgoes, honly⟩ := heach _ ho
    obtain ⟨fault, rfl, hkind⟩ := hgoes.missing hx hget hmissing
    refine ⟨fun hmem => ?_, ⟨.unassign u, fault⟩, ?_, rfl, hkind⟩
    · exact nomatch (honly _).mp (Report.mem_succeeded_iff.mp hmem)
    · exact Report.mem_failures_iff.mpr ((honly _).mpr rfl)

/-- A plan that is carried out, with a record or without, is reported as the replies have it. -/
theorem told_execute (elapse : Nat → σ → σ) {limits : Limits} (plan : Plan)
    (hpace : ∀ clock o s, pace.delay clock o s ≤ limits.timeout) (s : σ) :
    let executed := ((overheard send b pace elapse limits).execute plan).run (s, [])
    ((paced send b pace elapse limits).execute plan).run s = (executed.1, executed.2.1) ∧
      Told b plan executed.2.2 executed.1 := by
  dsimp only
  rw [Administrator.run_execute, Administrator.run_execute]
  cases he : plan.isEmpty with
  | true =>
    -- nothing is called for an empty plan, and nothing is said
    have hnone := Plan.operations_eq_nil_iff.mpr he
    rw [if_pos rfl, if_pos rfl, ← Report.ofOutcomes_nil]
    refine ⟨rfl, told_ofOutcomes (List.forall_mem_nil _) (List.forall_mem_nil _) ?_⟩
    rw [hnone]
    exact List.forall_mem_nil _
  | false =>
    rw [if_neg Bool.false_ne_true, if_neg Bool.false_ne_true]
    obtain ⟨houtcomes, hstate⟩ := FanOut.shadows_changeAll
      (beginsAs_inTwo send b pace fun o said => (o, said))
      elapse limits.effective plan.role plan.operations (s, [])
    have hgoes : FanOut.GoesBy (Goes b plan.role) limits.effective.timeout
        (inTwo (fun o => noted (fun said => (o, said)) send) b pace.noted plan.role) :=
      goesBy_inTwo send b pace hpace plan.role
    obtain ⟨howned, hrecord, heach⟩ := FanOut.told_changeAll plan.nodup_operations hgoes elapse s
    refine ⟨Prod.ext ?_ hstate.symm, told_ofOutcomes howned hrecord heach⟩
    exact congrArg (Report.ofOutcomes plan.role) houtcomes.symm

end Batches

/-- **Membership calls are what their replies make of them.** Whatever the server replies, a call
goes in one of the ways of `Goes`, and it succeeds with the replies of `Granted` and with no others.
A backend that can be used has a request for every call. When a plan is carried out, the calls may
each come in two goes, one go after the other being the call itself, with requests of others in
between. As long as no call takes longer than it may, what is reported of each operation is what the
replies to its own call make of it, and no user is said to have lost a role that the server does not
find. -/
theorem changes_as_answered {σ : Type} (send : Transport (StateM σ)) (b : Backend) :
    (∀ (role : RoleId) (o : Operation) (s : σ),
      let called := (change (noted (fun said => said) send) b role o).run.run (s, [])
      (change send b role o).run.run s = (called.1, called.2.1) ∧
      Goes b role o called.2.2 called.1 ∧
      (called.1 = .ok () ↔ Granted o (called.2.2.map (·.reply)))) ∧
    (b.Usable → ∀ (role : RoleId) (o : Operation), ∃ r, b.request (.change role o) = .ok r) ∧
    ∀ pace : Pace σ,
      (∀ (role : RoleId) (clock : Nat) (o : Operation),
        (inTwo (fun _ => send) b pace role clock o >>= fun begun => begun.finish)
          = (change send b role o).run) ∧
      ∀ (elapse : Nat → σ → σ) (limits : Limits) (plan : Plan) (s : σ),
        (∀ clock o s, pace.delay clock o s ≤ limits.timeout) →
        let executed := ((overheard send b pace elapse limits).execute plan).run (s, [])
        ((paced send b pace elapse limits).execute plan).run s = (executed.1, executed.2.1) ∧
        Told b plan executed.2.2 executed.1 := by
  refine ⟨fun role o s => ?_, fun hb role o => hb.exists_request _, fun pace =>
    ⟨inTwo_undisturbed send b pace, fun elapse limits plan s hpace =>
      told_execute send b pace elapse plan hpace s⟩⟩
  obtain ⟨talk, hrun, hway⟩ := Dialogue.run_through (fun said => said) send
    (change single b role o).run s []
  rw [Dialogue.through_change, Dialogue.through_change, List.nil_append, List.map_id'] at hrun
  rw [Dialogue.through_change] at hway
  dsimp only
  rw [hrun]
  exact ⟨rfl, goes_of_way hway, (goes_of_way hway).ok_iff⟩

/-- Who is to take over from Ada. -/
def heir : UserId := ⟨⟨18, by decide⟩⟩

/-- Another user is to get a role, and Ada to lose it. -/
def handover : Plan :=
  .ofOperations Store.editorsId [.assign heir, .unassign Store.ada.id]

/-- One request of each call is sent at its beginning, and no call takes any time. -/
def prompt : Pace Unit := ⟨fun _ _ => 1, fun _ _ _ => 0⟩

/-- A server that takes whatever is posted, and finds nothing that it is asked for. -/
def forgetful : Transport (StateM Unit) := fun r s =>
  (.answer (if r.method = .post then 204 else 404) none, s)

/-- One user is given the role. The other is not found to hold it, and the role is not found either:
nobody is said to have lost it. -/
theorem changes_as_answered_missing :
    let report := (((paced forgetful office prompt (fun _ s => s) {}).execute handover).run ()).1
    (∃ r, office.request (.change Store.editorsId (.unassign Store.ada.id)) = .ok r) ∧
      .assign heir ∈ report.succeeded ∧
      .unassign Store.ada.id ∉ report.succeeded ∧
      ∃ f ∈ report.failures, f.operation = .unassign Store.ada.id ∧ f.fault.kind = .notFound := by
  intro report
  obtain ⟨-, hrequest, hbatch⟩ := changes_as_answered forgetful office
  obtain ⟨hsame, htold⟩ := (hbatch prompt).2 (fun _ s => s) {} handover () fun _ _ _ =>
    Nat.zero_le _
  have hsaid : (((overheard forgetful office prompt (fun _ s => s) {}).execute handover).run
      ((), [])).2.2.map (fun x => (x.1, x.2.request.method, x.2.reply)) =
        [(.assign heir, .post, .answer 204 none),
          (.unassign Store.ada.id, .delete, .answer 404 none),
          (.unassign Store.ada.id, .get, .answer 404 none)] := by
    decide +kernel
  have hgranted : (FanOut.talkOf (.assign heir)
      (((overheard forgetful office prompt (fun _ s => s) {}).execute handover).run
        ((), [])).2.2).map (·.reply) = [.answer 204 none] := by
    decide +kernel
  generalize ((overheard forgetful office prompt (fun _ s => s) {}).execute handover).run ((), [])
    = executed at hsame htold hsaid hgranted
  have hlast : (.unassign Store.ada.id, Method.get, Reply.answer 404 none) ∈
      executed.2.2.map fun x => (x.1, x.2.request.method, x.2.reply) := by
    rw [hsaid]
    exact List.mem_cons_of_mem _ (List.mem_cons_of_mem _ (List.mem_singleton_self _))
  obtain ⟨x, hx, he⟩ := List.mem_map.mp hlast
  obtain ⟨howner, hmethod, hreply⟩ : x.1 = _ ∧ x.2.request.method = _ ∧ x.2.reply = _ := by
    simpa only [Prod.mk.injEq] using he
  have htalk : x.2 ∈ FanOut.talkOf (.unassign Store.ada.id) executed.2.2 :=
    List.mem_map_of_mem (List.mem_filter.mpr ⟨hx, decide_eq_true howner⟩)
  have hreport : report = executed.1 := congrArg Prod.fst hsame
  have hmissing := htold.missing Store.ada.id x.2 htalk hmethod (congrArg Reply.status? hreply)
  refine ⟨hrequest usable_office _ _, ?_, hreport ▸ hmissing⟩
  rw [hreport, htold.succeeded, hgranted]
  exact ⟨by decide, Or.inl ⟨204, rfl, by decide, by decide⟩⟩

end Rolebook.Http
