import Mathlib
import Rolebook.Proofs.Http.Outcomes
import Rolebook.Proofs.Http.Payload
import Rolebook.Proofs.Store.Failure
import Rolebook.Proofs.Text.Blank

/-!
# What a refusal tells

A call that is refused fails, and its fault says which call, with which status, and why. `Tells`
says where the reason comes from: the message in the body, or the error in it if there is no
message, or else all of the body. A message hides an error even if it is blank, and then there is no
reason at all (`Tells.blank`, `blank_message_hides_error`).

A call gets to its fault by one reply in every case (`Refused.run_perform`) but two: a user who gets
a role may hold it already, and a user who loses one may not hold it, which is looked into by asking
for the role.
-/

namespace Rolebook

/-- A text stands somewhere in another one. -/
def Text.Within (part text : String) : Prop := ∃ before after, text = before ++ part ++ after

theorem Text.Within.subset {part whole : String} (h : Text.Within part whole) :
    part.toList ⊆ whole.toList := by
  obtain ⟨before, after, rfl⟩ := h
  intro c hc
  simp only [String.toList_append, List.mem_append]
  exact Or.inl (Or.inr hc)

namespace Fault

variable (activity : String) (status : Nat) {message : String}

/-- A refusal names the call and the status, whatever else there is to say. -/
theorem exists_rest (message : String) :
    ∃ rest, refusal activity status message = s!"{activity} returned status {status}" ++ rest := by
  unfold refusal
  split
  next => exact ⟨"", String.append_empty.symm⟩
  next => exact ⟨": " ++ message, by simp [toString, String.append_assoc]⟩

/-- What is to be said about a refusal is said in it. -/
theorem within_refusal (h : message ≠ "") : Text.Within message (refusal activity status message) := by
  refine ⟨s!"{activity} returned status {status}: ", "", ?_⟩
  rw [refusal, if_neg h, String.append_empty]
  rfl

end Fault

namespace Http

/-- The text of a body. One that breaks off has none. -/
def bodyText (body : Option (List UInt8)) : String := body.elim "" Text.Body.decode

namespace Payload

/-! ## The words of a body -/

/-- What the members of an object have under a name that is there once at most: a text, or nothing
if there is `null` or no such member. -/
inductive Worded (members : List (Option String × Json)) (name : String) : Option String → Prop where
  | absent (h : ∀ m ∈ members, m.1 ≠ some name) : Worded members name none
  | null (before : List (Option String × Json)) {after : List (Option String × Json)}
      (h : members = before ++ (some name, .null) :: after)
      (others : ∀ m ∈ before ++ after, m.1 ≠ some name) : Worded members name none
  | text (before : List (Option String × Json)) {after : List (Option String × Json)}
      {word : String} (h : members = before ++ (some name, .ofText word) :: after)
      (others : ∀ m ∈ before ++ after, m.1 ≠ some name) : Worded members name (some word)

/-- A text is an object with a message and an error in it, where either may be missing. All names in
it denote texts. -/
def Says (text : String) (message error : Option String) : Prop :=
  ∃ members, Json.read? text = some (.object members) ∧ (∀ m ∈ members, m.1.isSome = true) ∧
    Worded members "message" message ∧ Worded members "error" error

variable {members : List (Option String × Json)} {name text : String} {word : Option String}
  {message error : Option String}

/-- A name that is there once is found, wherever it stands. -/
theorem memberSlot?_of_others {before after : List (Option String × Json)} (v : Json)
    (others : ∀ m ∈ before ++ after, m.1 ≠ some name) :
    Json.memberSlot? (before ++ (some name, v) :: after) [name] = some (some v) := by
  obtain ⟨hbefore, hafter⟩ := List.forall_mem_append.mp others
  have hone : Json.valuesOf [name] [(some name, v)] = [v] := by simp [Json.valuesOf]
  rw [Json.memberSlot?, List.append_cons, valuesOf_append, valuesOf_append, valuesOf_eq_nil hbefore,
    valuesOf_eq_nil hafter, hone]
  rfl

/-- The words under a name are what is read from its field. -/
theorem Worded.exists_slot (h : Worded members name word) :
    ∃ slot, Json.memberSlot? members [name] = some slot ∧
      Json.optionally Json.text? slot = some word := by
  cases h with
  | absent h => exact ⟨none, by rw [Json.memberSlot?, valuesOf_eq_nil h], rfl⟩
  | null _ h others => exact ⟨_, h ▸ memberSlot?_of_others .null others, rfl⟩
  | text _ h others => exact ⟨_, h ▸ memberSlot?_of_others _ others, rfl⟩

/-- The words that are taken from an object are its message, or else its error. -/
theorem words?_of_worded (hnames : ∀ m ∈ members, m.1.isSome = true)
    (hmessage : Worded members "message" message) (herror : Worded members "error" error) :
    words? (.object members) = message.or error := by
  obtain ⟨slot, hslot, hread⟩ := hmessage.exists_slot
  obtain ⟨slot', hslot', hread'⟩ := herror.exists_slot
  have hslots : Json.slots? [["message"], ["error"]] (.object members) = some [slot, slot'] := by
    show (if members.all (fun m => m.1.isSome) then _ else none) = _
    rw [if_pos (List.all_eq_true.mpr hnames), List.mapM_cons, List.mapM_cons, List.mapM_nil, hslot,
      hslot']
    rfl
  rw [words?, hslots]
  show (Json.optionally Json.text? slot).bind (fun message =>
    (Json.optionally Json.text? slot').bind fun error => message.or error) = _
  rw [hread, hread']
  rfl

end Payload

/-! ## What a fault tells -/

open Payload (Says words?)
open Text (Within)

variable {activity text detail : String} {status : Nat}

/-- The words of a fault say all that there is to be said about a refusal whose body is `text`. -/
structure Tells (activity : String) (status : Nat) (text detail : String) : Prop where
  /-- Which call was refused, and with which status. -/
  start : ∃ rest, detail = s!"{activity} returned status {status}" ++ rest
  /-- A message is told, whether there is an error beside it or not. -/
  message : ∀ message error, Says text (some message) error → Text.trim message ≠ "" →
    Within (Text.trim message) detail
  /-- An error is told if there is no message. -/
  error : ∀ error, Says text none (some error) → Text.trim error ≠ "" →
    Within (Text.trim error) detail
  /-- A blank message is taken for the reason, and nothing is told. -/
  blank : ∀ message error, Says text (some message) error → Text.trim message = "" →
    detail = s!"{activity} returned status {status}"
  /-- What is no JSON is told as it is. -/
  unread : Json.read? text = none → Text.trim text ≠ "" → Within (Text.trim text) detail
  /-- And so is what has no words in it. -/
  wordless : ∀ v, Json.read? text = some v → words? v = none → Text.trim text ≠ "" →
    Within (Text.trim text) detail

/-- What a body complains of: the words in it, or else all of it. -/
theorem complaint_eq (body : Option (List UInt8)) :
    Payload.complaint body = ((Json.read? (bodyText body)).bind words?).getD (bodyText body) := rfl

/-- A body with words in it complains with the message, or with the error if there is no message. -/
theorem complaint_eq_or {body : Option (List UInt8)} {message error : Option String}
    (h : Says (bodyText body) message error) :
    Payload.complaint body = (message.or error).getD (bodyText body) := by
  obtain ⟨members, hread, hnames, hmessage, herror⟩ := h
  rw [complaint_eq, hread, Option.bind_some, Payload.words?_of_worded hnames hmessage herror]

/-- A refusal tells what its body says. -/
theorem tells_refusal (activity : String) (status : Nat) (body : Option (List UInt8)) :
    Tells activity status (bodyText body)
      (Fault.refusal activity status (Text.trim (Payload.complaint body))) where
  start := Fault.exists_rest activity status _
  message message error h hne := by
    rw [complaint_eq_or h]
    exact Fault.within_refusal activity status hne
  error error h hne := by
    rw [complaint_eq_or h]
    exact Fault.within_refusal activity status hne
  blank message error h hblank := by
    rw [complaint_eq_or h]
    exact if_pos hblank
  unread h hne := by
    rw [complaint_eq, h]
    exact Fault.within_refusal activity status hne
  wordless v h hv hne := by
    rw [complaint_eq, h, Option.bind_some, hv]
    exact Fault.within_refusal activity status hne

/-! ## Calls that are refused -/

section Calls

variable {σ : Type} {send : Transport (StateM σ)} {b : Backend} {c : Gateway.Call} {s s' : σ}
  {body : Option (List UInt8)}

/-- A call's request is answered, and with no success. -/
def Refused (send : Transport (StateM σ)) (b : Backend) (c : Gateway.Call) (s : σ) (status : Nat)
    (body : Option (List UInt8)) (s' : σ) : Prop :=
  ∃ request, b.request c = .ok request ∧ (send request).run s = (.answer status body, s') ∧
    isSuccess status = false

/-- A refusal that the call does not fail with: what it asks for may be so already. -/
def Excused (status : Nat) : Gateway.Call → Prop
  | .change _ (.assign _) => status = 409
  | .change _ (.unassign _) => status = 404
  | _ => False

/-- A call that is refused fails with the refusal, in the state in which the server is left. -/
theorem Refused.exchanged (h : Refused send b c s status body s') :
    Http.exchanged send b c s =
      (.error (.refused c.activity status (Text.trim (Payload.complaint body))), s') := by
  obtain ⟨request, hrequest, hsend, hstatus⟩ := h
  rw [Http.exchanged, hrequest]
  dsimp only
  rw [hsend, settle, if_neg (by rw [hstatus]; decide)]

/-- Conflicts and missing things are told from other refusals by their status. -/
theorem kind_refused_iff {message : String} :
    ((Fault.refused activity status message).kind = .conflict ↔ status = 409) ∧
      ((Fault.refused activity status message).kind = .notFound ↔ status = 404) :=
  kindOfStatus_eq_iff.symm

/-- A call that is refused fails with the refusal, unless it is excused. -/
theorem Refused.run_perform (h : Refused send b c s status body s') (hexcused : ¬ Excused status c)
    (dispatch : Dispatch (StateM σ)) :
    ((c.perform (gateway send dispatch b)).run.run s) =
      (.error (.refused c.activity status (Text.trim (Payload.complaint body))), s') := by
  have hexchanged := h.exchanged
  cases c with
  | listRoles =>
    show (Administrator.ended (listRoles send b)).run.run s = _
    rw [run_ended, run_listRoles, hexchanged]
    rfl
  | getRole | createRole | updateRole =>
    show (Administrator.ended (fetchRole send b _)).run.run s = _
    rw [run_ended, run_fetchRole, hexchanged]
    rfl
  | listPermissions | listUsers | members =>
    show (Administrator.ended (fetch send b _ _)).run.run s = _
    rw [run_ended, run_fetch, hexchanged]
    rfl
  | deleteRole id =>
    show (exchange send b (.deleteRole id) >>= fun _ => pure ()).run.run s = _
    rw [Administrator.run_attempt_bind, run_exchange, hexchanged]
  | change id o =>
    show (change send b id o).run.run s = _
    cases o with
    | assign u =>
      rw [run_assign, hexchanged]
      dsimp only
      rw [if_neg fun hkind => hexcused (kind_refused_iff.1.mp hkind)]
    | unassign u =>
      rw [run_unassign, hexchanged]
      dsimp only
      rw [if_neg fun hkind => hexcused (kind_refused_iff.2.mp hkind)]

/-- **Refusals tell why.** A call that is refused fails with a fault whose words begin with the call
and the status and go on with what the body says. Only a role that a user holds already is no
failure, and a role that a user does not hold is one if it is not there either: then the call ends
as one that asks for the role. -/
theorem refusals_tell (dispatch : Dispatch (StateM σ)) (h : Refused send b c s status body s') :
    (¬ Excused status c → ∃ fault,
      (c.perform (gateway send dispatch b)).run.run s = (.error fault, s') ∧
      fault.kind = Fault.kindOfStatus status ∧
      Tells c.activity status (bodyText body) fault.detail) ∧
    (∀ role u, c = .change role (.assign u) → status = 409 →
      (c.perform (gateway send dispatch b)).run.run s = (.ok (), s')) ∧
    (∀ role u, c = .change role (.unassign u) → status = 404 →
      (c.perform (gateway send dispatch b)).run.run s =
        ((Gateway.Call.getRole role).perform (gateway send dispatch b)).run.run s') := by
  refine ⟨fun hexcused => ⟨_, h.run_perform hexcused dispatch, rfl, tells_refusal ..⟩, ?_, ?_⟩
  · rintro role u rfl hstatus
    show (change send b role (.assign u)).run.run s = _
    rw [run_assign, h.exchanged]
    dsimp only
    rw [if_pos (kind_refused_iff.1.mpr hstatus)]
  · rintro role u rfl hstatus
    show (change send b role (.unassign u)).run.run s
      = (Administrator.ended (fetchRole send b (.getRole role))).run.run s'
    rw [run_unassign, h.exchanged, run_ended]
    dsimp only
    rw [if_pos (kind_refused_iff.2.mpr hstatus)]

end Calls

/-- A server that refuses everything in the same way. -/
def denying (status : Nat) (text : String) : Transport (StateM Unit) := fun _ s =>
  (.answer status (some (Text.Utf8.encode text.toList)), s)

/-- A refusal with an error in it, and no message. -/
def nullMessage : String := "\x7b\"message\":null,\"error\":\" no space left\"\x7d"

/-- What a server sends is the text that it was given. -/
theorem nullMessage_says_error :
    Says (bodyText (some (Text.Utf8.encode nullMessage.toList))) none (some " no space left") := by
  have htext : bodyText (some (Text.Utf8.encode nullMessage.toList)) = nullMessage := by
    decide +kernel
  rw [htext]
  refine ⟨[(some "message", .null), (some "error", .ofText " no space left")], by cbv, by decide,
    .null [] rfl (by decide), ?_⟩
  exact .text [(some "message", .null)] rfl (by decide)

theorem refusals_tell_full :
    Refused (denying 503 nullMessage) office .listUsers () 503
      (some (Text.Utf8.encode nullMessage.toList)) () ∧
    ∃ fault, (Gateway.Call.listUsers.perform
      (gateway (denying 503 nullMessage) inTurn office)).run.run () = (.error fault, ()) ∧
      Within "no space left" fault.detail := by
  have hrefused : Refused (denying 503 nullMessage) office .listUsers () 503
      (some (Text.Utf8.encode nullMessage.toList)) () := ⟨_, rfl, rfl, rfl⟩
  obtain ⟨fault, hrun, -, htells⟩ := (refusals_tell inTurn hrefused).1 id
  have htrim : Text.trim " no space left" = "no space left" := by decide +kernel
  have hwithin := htells.error _ nullMessage_says_error (by rw [htrim]; decide)
  rw [htrim] at hwithin
  exact ⟨hrefused, fault, hrun, hwithin⟩

/-- A refusal with a blank message and an error in it. -/
def blankMessage : String := "\x7b\"message\":\" \",\"error\":\"no space left\"\x7d"

/-- A body with a blank message and an error beside it. -/
theorem blankMessage_says_both :
    Says (bodyText (some (Text.Utf8.encode blankMessage.toList))) (some " ")
      (some "no space left") := by
  have htext : bodyText (some (Text.Utf8.encode blankMessage.toList)) = blankMessage := by
    decide +kernel
  rw [htext]
  refine ⟨[(some "message", .ofText " "), (some "error", .ofText "no space left")], by cbv,
    by decide, .text [] rfl (by decide), ?_⟩
  exact .text [(some "message", .ofText " ")] rfl (by decide)

/-- It is not enough for a reason to be told that there is one: a blank message hides the error
beside it. -/
theorem blank_message_hides_error :
    ¬ ∀ (send : Transport (StateM Unit)) (b : Backend) (status : Nat) (body : Option (List UInt8))
      (message error : Option String),
      Refused send b .listUsers () status body () → Says (bodyText body) message error →
      (∃ word, (message = some word ∨ error = some word) ∧ Text.trim word ≠ "") →
      ∃ fault, (Gateway.Call.listUsers.perform (gateway send inTurn b)).run.run ()
          = (.error fault, ()) ∧
        ∃ word, (message = some word ∨ error = some word) ∧ Text.trim word ≠ "" ∧
          Within (Text.trim word) fault.detail := by
  intro hall
  let body : Option (List UInt8) := some (Text.Utf8.encode blankMessage.toList)
  have hrefused : Refused (denying 500 blankMessage) office .listUsers () 500 body () :=
    ⟨_, rfl, rfl, rfl⟩
  have htrim : Text.trim "no space left" = "no space left" := by decide +kernel
  have hblank : Text.trim " " = "" := by decide +kernel
  obtain ⟨fault, hrun, word, hword, hne, hwithin⟩ := hall _ _ _ _ _ _ hrefused blankMessage_says_both
    ⟨"no space left", Or.inr rfl, by rw [htrim]; decide⟩
  rw [hrefused.run_perform id] at hrun
  cases hrun
  have hdetail := (tells_refusal "list users" 500 body).blank _ _ blankMessage_says_both hblank
  rcases hword with hword | hword
  · cases hword
    exact hne hblank
  · cases hword
    have hwithin : Within (Text.trim "no space left")
        (Fault.refusal "list users" 500 (Text.trim (Payload.complaint body))) := hwithin
    rw [htrim, hdetail] at hwithin
    have hmem := hwithin.subset (show 'f' ∈ ("no space left" : String).toList by decide)
    revert hmem
    decide

end Http

end Rolebook
