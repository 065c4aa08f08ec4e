import Rolebook.Http.Calls
import Rolebook.Proofs.Administrator.Members

/-!
# What the calls to a backend do

A call is an exchange with a server that has a state of its own. Nothing is sent unless the request
can be put together, and what is sent is settled by the reply (`exchanged`). Each kind of call then
gets one equation for its run:

* `run_exchange`, `run_fetch`, `run_fetchRole`, `run_listRoles`: one request, and the reading of its
  answer;
* `Answered`: an answer that can be read, and what the calls make of it;
* `run_assign`, `run_unassign`: one request, and after a user was not found to hold a role, a second
  one that asks for the role.

`request_eq_ok_iff` says what a request is that can be put together, and when it can.
-/

namespace Rolebook.Http

open Administrator (run_attempt_bind run_lift_bind run_liftExcept)

/-! ## Requests -/

/-- The URL that a request goes to: a name and a password are left to its headers. -/
def bareUrl (u : Url) : Url :=
  if (Backend.signIn? u).isSome then u.withoutCredentials else u

/-- A request is put together for a place under the base URL, with a host and a legal token, if it
can be sent. -/
theorem Backend.request_eq_ok_iff {b : Backend} {c : Gateway.Call} {r : Request} :
    b.request c = .ok r ↔
      ∃ located, b.baseUrl.extend? ("api" :: "v1" :: c.place) = some located ∧
        (bareUrl located).hasHost = true ∧ b.token.all isHeaderValue = true ∧
        isSendable (bareUrl located) = true ∧
        r = ⟨c.method, bareUrl located, b.headers located, c.body⟩ := by
  unfold request locate
  cases b.baseUrl.extend? ("api" :: "v1" :: c.place) with
  | none => exact ⟨nofun, fun ⟨_, h, _⟩ => nomatch h⟩
  | some located =>
    show (if !(bareUrl located).hasHost then throw _ else if !(b.token.all isHeaderValue) then throw _
      else if !isSendable (bareUrl located) then throw _ else pure _ : Except Fault Request) = _ ↔ _
    constructor
    · intro h
      cases hhost : (bareUrl located).hasHost with
      | false => rw [hhost] at h; cases h
      | true =>
        cases htoken : b.token.all isHeaderValue with
        | false => rw [hhost, htoken] at h; cases h
        | true =>
          cases hsendable : isSendable (bareUrl located) with
          | false => rw [hhost, htoken, hsendable] at h; cases h
          | true =>
            rw [hhost, htoken, hsendable] at h
            exact ⟨located, rfl, hhost, rfl, hsendable, (Except.ok.inj h).symm⟩
    · rintro ⟨_, ⟨⟩, hhost, htoken, hsendable, rfl⟩
      rw [hhost, htoken, hsendable]
      rfl

/-- What is asked for is the place of the call under the base URL. -/
theorem Backend.request_eq_ok {b : Backend} {c : Gateway.Call} {r : Request}
    (h : b.request c = .ok r) :
    ∃ located, b.baseUrl.extend? ("api" :: "v1" :: c.place) = some located ∧
      r = ⟨c.method, bareUrl located, b.headers located, c.body⟩ :=
  let ⟨located, hlocated, _, _, _, hr⟩ := request_eq_ok_iff.mp h
  ⟨located, hlocated, hr⟩

/-! ## Exchanges -/

variable {σ : Type} (send : Transport (StateM σ)) (b : Backend)

/-- What becomes of a call's request, and what it leaves of the server's state. -/
def exchanged (c : Gateway.Call) (s : σ) : Except Fault Success × σ :=
  match b.request c with
  | .ok request =>
    (settle c.activity request.url ((send request).run s).1, ((send request).run s).2)
  | .error fault => (.error fault, s)

/-- Sending a request and settling its reply, as one function of the state. -/
theorem run_exchange (c : Gateway.Call) (s : σ) :
    (exchange send b c).run.run s = exchanged send b c s := by
  rw [exchange, run_attempt_bind, run_liftExcept, exchanged]
  cases b.request c with
  | error fault => rfl
  | ok request => dsimp only; rw [run_lift_bind, run_liftExcept]

/-- A call that is answered with a value fails with its request, or if the answer is illegible. -/
theorem run_fetch {α : Type} (read : Json → Option α) (c : Gateway.Call) (s : σ) :
    (fetch send b read c).run.run s =
      match exchanged send b c s with
      | (.ok success, s') => (decode read c.activity success, s')
      | (.error fault, s') => (.error fault, s') := by
  rw [fetch, run_attempt_bind, run_exchange]
  rcases exchanged send b c s with ⟨_ | success, s'⟩
  · rfl
  · exact run_liftExcept _ s'

/-- An answer that is read and then made into something else. -/
theorem run_fetch_bind {α β : Type} (read : Json → Option α) (f : α → Except Fault β)
    (c : Gateway.Call) (s : σ) :
    (fetch send b read c >>= fun a => liftExcept (f a)).run.run s =
      match exchanged send b c s with
      | (.ok success, s') => (decode read c.activity success >>= f, s')
      | (.error fault, s') => (.error fault, s') := by
  rw [run_attempt_bind, run_fetch]
  rcases exchanged send b c s with ⟨_ | success, s'⟩
  · rfl
  · dsimp only
    cases decode read c.activity success with
    | error fault => rfl
    | ok a => exact run_liftExcept _ s'

/-- A call that is answered with a role may also fail because the name of the role is blank. -/
theorem run_fetchRole (c : Gateway.Call) (s : σ) :
    (fetchRole send b c).run.run s =
      match exchanged send b c s with
      | (.ok success, s') =>
        (decode Payload.roleInput? c.activity success >>= Role.ofInput, s')
      | (.error fault, s') => (.error fault, s') :=
  run_fetch_bind ..

/-- A single role with a blank name makes the list of roles fail. -/
theorem run_listRoles (s : σ) :
    (listRoles send b).run.run s =
      match exchanged send b .listRoles s with
      | (.ok success, s') =>
        (decode (Payload.list? Payload.roleInput?) Gateway.Call.listRoles.activity success
          >>= fun inputs => inputs.mapM Role.ofInput, s')
      | (.error fault, s') => (.error fault, s') :=
  run_fetch_bind ..

/-! ## Answers that can be read -/

/-- A call's request is answered with success, and with a body that spells `v`. -/
def Answered (c : Gateway.Call) (s : σ) (v : Json) (s' : σ) : Prop :=
  ∃ request status body, b.request c = .ok request ∧
    (send request).run s = (.answer status (some body), s') ∧ isSuccess status = true ∧
    Json.ofBytes? body = some v

variable {send b} {c : Gateway.Call} {s s' : σ} {v : Json}

/-- A legible answer with success is what comes of the exchange. -/
theorem Answered.exchanged (h : Answered send b c s v s') :
    ∃ success, Http.exchanged send b c s = (.ok success, s') ∧
      success.body.bind Json.ofBytes? = some v := by
  obtain ⟨request, status, body, hrequest, hsend, hstatus, hbody⟩ := h
  refine ⟨⟨request.url, some body⟩, ?_, hbody⟩
  rw [Http.exchanged, hrequest]
  dsimp only
  rw [hsend, settle, if_pos hstatus]

/-- A legible body is read as the value it spells. -/
theorem toOption_decode {α : Type} {success : Success} (h : success.body.bind Json.ofBytes? = some v)
    (read : Json → Option α) (activity : String) :
    (decode read activity success).toOption = read v := by
  rw [decode, h, Option.bind_some]
  cases read v <;> rfl

/-- An answer that can be read gives what is read from it. -/
theorem Answered.run_fetch {α : Type} (h : Answered send b c s v s') (read : Json → Option α) :
    ((fetch send b read c).run.run s).2 = s' ∧
      ((fetch send b read c).run.run s).1.toOption = read v := by
  obtain ⟨success, hexchanged, hbody⟩ := h.exchanged
  rw [Http.run_fetch, hexchanged]
  exact ⟨rfl, toOption_decode hbody read _⟩

/-- When the answer is legible, what a call comes to is decided by the value that was read. -/
theorem Answered.run_fetch_bind {α β : Type} (h : Answered send b c s v s') (read : Json → Option α)
    (f : α → Except Fault β) :
    ((fetch send b read c >>= fun a => liftExcept (f a)).run.run s).2 = s' ∧
      ((fetch send b read c >>= fun a => liftExcept (f a)).run.run s).1.toOption
        = (read v).bind fun a => (f a).toOption := by
  obtain ⟨success, hexchanged, hbody⟩ := h.exchanged
  rw [Http.run_fetch_bind, hexchanged, ← toOption_decode hbody read c.activity]
  refine ⟨rfl, ?_⟩
  dsimp only
  cases decode read c.activity success <;> rfl

variable (send b)

/-! ## Changes to members -/

/-- To give a role: a conflict means that the user has it already. -/
theorem run_assign (id : RoleId) (u : UserId) (s : σ) :
    (change send b id (.assign u)).run.run s =
      match exchanged send b (.change id (.assign u)) s with
      | (.ok _, s') => (.ok (), s')
      | (.error fault, s') =>
        (if fault.kind = .conflict then .ok () else .error fault, s') := by
  rw [change, run_lift_bind, run_exchange]
  rcases exchanged send b (.change id (.assign u)) s with ⟨fault | success, s'⟩
  · dsimp only
    split <;> rfl
  · rfl

/-- To take a role away: where the user is not found to hold it, the role is looked for. -/
theorem run_unassign (id : RoleId) (u : UserId) (s : σ) :
    (change send b id (.unassign u)).run.run s =
      match exchanged send b (.change id (.unassign u)) s with
      | (.ok _, s') => (.ok (), s')
      | (.error fault, s') =>
        if fault.kind = .notFound then
          let found := (fetchRole send b (.getRole id)).run.run s'
          (found.1.map fun _ => (), found.2)
        else (.error fault, s') := by
  rw [change, run_lift_bind, run_exchange]
  rcases exchanged send b (.change id (.unassign u)) s with ⟨fault | success, s'⟩
  · dsimp only
    split
    · rw [run_attempt_bind]
      rcases (fetchRole send b (.getRole id)).run.run s' with ⟨_ | _, s''⟩ <;> rfl
    · rfl
  · rfl

end Rolebook.Http
