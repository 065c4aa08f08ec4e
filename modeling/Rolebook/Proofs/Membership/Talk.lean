import Rolebook.Proofs.Membership.Watched
import Mathlib.Data.List.Nodup

/-!
# What is said in the calls of a batch

The calls of a batch may each come in two goes, with others in between, and write down what they say
under their own operations. `Told` is the invariant: of a call that is over, what was said and what
came of it belong together; and of one under way, what was said so far and what will be said. When
no call is left, each operation has come to what its own call said (`told_changeAll`).
-/

namespace Rolebook.FanOut

variable {σ τ : Type}

/-! ## What is said in one call -/

/-- What was said in the call for an operation. -/
def talkOf (o : Operation) (record : List (Operation × τ)) : List τ :=
  (record.filter fun x => x.1 = o).map (·.2)

variable {o o' : Operation} {record : List (Operation × τ)} {talk : List τ}

/-- What was said for an operation, by what was said before and what was said after. -/
theorem talkOf_append (later : List (Operation × τ)) :
    talkOf o (record ++ later) = talkOf o record ++ talkOf o later := by
  rw [talkOf, List.filter_append, List.map_append]
  rfl

/-- What a call says is said for its own operation. -/
theorem talkOf_own : talkOf o (record ++ talk.map (o, ·)) = talkOf o record ++ talk := by
  have hall : (talk.map (o, ·)).filter (fun x => x.1 = o) = talk.map (o, ·) := by
    refine List.filter_eq_self.mpr fun x hx => ?_
    obtain ⟨_, -, rfl⟩ := List.mem_map.mp hx
    exact decide_eq_true rfl
  have hback : (talk.map (o, ·)).map (·.2) = talk := by
    rw [List.map_map]
    exact List.map_id talk
  rw [talkOf_append, talkOf, talkOf, hall, hback]

/-- What is said in one call is said in no other. -/
theorem talkOf_other (h : o ≠ o') : talkOf o (record ++ talk.map (o', ·)) = talkOf o record := by
  have hnone : (talk.map (o', ·)).filter (fun x => x.1 = o) = [] := by
    refine List.filter_eq_nil_iff.mpr fun x hx => ?_
    obtain ⟨_, -, rfl⟩ := List.mem_map.mp hx
    exact fun he => h (of_decide_eq_true he).symm
  rw [talkOf_append, talkOf, talkOf, hnone]
  exact List.append_nil _

/-- A record of the operations of a batch stays one. -/
theorem own_append {operations : List Operation} (h : ∀ x ∈ record, x.1 ∈ operations)
    (ho : o ∈ operations) : ∀ x ∈ record ++ talk.map (o, ·), x.1 ∈ operations := by
  refine List.forall_mem_append.mpr ⟨h, fun x hx => ?_⟩
  obtain ⟨_, -, rfl⟩ := List.mem_map.mp hx
  exact ho

/-- What is still to be said in a call, in whatever state it goes on: it goes with what has been
said so far and with what comes of it. -/
def Concludes (P : List τ → Except Fault Unit → Prop) (o : Operation) (said : List τ)
    (finish : StateM (σ × List (Operation × τ)) (Except Fault Unit)) : Prop :=
  ∀ s record, ∃ talk, (finish.run (s, record)).2.2 = record ++ talk.map (o, ·) ∧
    P (said ++ talk) (finish.run (s, record)).1

/-- Calls are in time, and what is said in each of them goes with what comes of it. -/
def GoesBy (P : Operation → List τ → Except Fault Unit → Prop) (timeout : Nat)
    (begin : Nat → Operation →
      StateM (σ × List (Operation × τ)) (Pending (σ × List (Operation × τ)))) : Prop :=
  ∀ clock o s record, ((begin clock o).run (s, record)).1.delay ≤ timeout ∧
    ∃ talk, ((begin clock o).run (s, record)).2.2 = record ++ talk.map (o, ·) ∧
      Concludes (P o) o talk ((begin clock o).run (s, record)).1.finish

/-! ## What is said in a batch -/

variable {P : Operation → List τ → Except Fault Unit → Prop} {operations : List Operation}
  {limits : Limits} {role : RoleId}
  {begin : Nat → Operation → StateM (σ × List (Operation × τ)) (Pending (σ × List (Operation × τ)))}
  {b : Batch (σ × List (Operation × τ))}

/-- Each operation is over, under way or waiting, and what is on record of it goes with that. -/
structure Told (P : Operation → List τ → Except Fault Unit → Prop) (operations : List Operation)
    (b : Batch (σ × List (Operation × τ))) : Prop where
  parts : b.operations.Perm operations
  ended : ∀ x ∈ b.ended, P x.operation (talkOf x.operation b.state.2) x.result
  underway : ∀ r ∈ b.running,
    Concludes (P r.operation) r.operation (talkOf r.operation b.state.2) r.finish
  unsaid : ∀ o ∈ b.waiting, talkOf o b.state.2 = []
  own : ∀ x ∈ b.state.2, x.1 ∈ operations

/-- At the beginning nothing has been said. -/
theorem told_ofOperations (P : Operation → List τ → Except Fault Unit → Prop)
    (operations : List Operation) (s : σ) :
    Told P operations (Batch.ofOperations operations (s, [])) where
  parts := .refl _
  ended _ h := absurd h List.not_mem_nil
  underway _ h := absurd h List.not_mem_nil
  unsaid _ _ := rfl
  own _ h := absurd h List.not_mem_nil

/-- No operation is called twice. -/
theorem Told.nodup (h : Told P operations b) (hd : operations.Nodup) : b.operations.Nodup :=
  h.parts.nodup_iff.mpr hd

/-- A call that begins has said what its talk starts with, and what it is still to say completes the
talk. -/
theorem Told.start (h : Told P operations b) (hd : operations.Nodup)
    (hbegin : GoesBy P limits.timeout begin) {o : Operation} {waiting : List Operation}
    (hw : b.waiting = o :: waiting) :
    Told P operations (b.start (rules begin limits role) o waiting) := by
  have ho : o ∈ b.waiting := hw ▸ List.mem_cons_self ..
  have hparts := operations_start (rules begin limits role) hw
  obtain ⟨hdelay, talk, hsaid, hconcludes⟩ := hbegin b.clock o b.state.1 b.state.2
  have hstate : (b.start (rules begin limits role) o waiting).state.2
      = b.state.2 ++ talk.map (o, ·) := hsaid
  have hwaiting : ∀ o' ∈ waiting, o' ≠ o := by
    have hnodup := (List.nodup_append.mp (List.nodup_append.mp (h.nodup hd)).2.1).2.1
    rw [hw] at hnodup
    rintro o' ho' rfl
    exact (List.nodup_cons.mp hnodup).1 ho'
  -- what the call writes at its beginning is its own, so nothing changes for the others
  refine ⟨hparts ▸ h.parts, fun x hx => ?_, fun r hr => ?_, fun o' ho' => ?_, ?_⟩
  · rw [hstate, talkOf_other (ne_ended (h.nodup hd) hx (List.mem_append_right _ ho)).symm]
    exact h.ended x hx
  · rw [hstate]
    rcases List.mem_append.mp hr with hr | hr
    · rw [talkOf_other (ne_underway (h.nodup hd) hr ho).symm]
      exact h.underway r hr
    · have hinTime : (((rules begin limits role).begin b.clock o).run b.state).1.delay
          ≤ (rules begin limits role).timeout := hdelay
      rw [List.mem_singleton.mp hr, operation_running, finish_running, if_pos hinTime, talkOf_own,
        h.unsaid o ho]
      exact hconcludes
  · rw [hstate, talkOf_other (hwaiting o' ho')]
    exact h.unsaid o' (hw ▸ List.mem_cons_of_mem o ho')
  · rw [hstate]
    exact own_append h.own
      (h.parts.mem_iff.mp (List.mem_append_right _ (List.mem_append_right _ ho)))

/-- A call that ends has said all, and its outcome goes with that; other calls are as they were. -/
theorem Told.settle (h : Told P operations b) (hd : operations.Nodup)
    {r : Running (σ × List (Operation × τ))} {rest : List (Running (σ × List (Operation × τ)))}
    (hperm : (r :: rest).Perm b.running) : Told P operations (b.settle r rest) := by
  have hr : r ∈ b.running := hperm.mem_iff.mp (List.mem_cons_self ..)
  have hunder : r.operation ∈ b.running.map (·.operation) := List.mem_map_of_mem hr
  -- the call was to go on from whatever state it would find, and it finds this one
  obtain ⟨talk, hsaid, hresult⟩ := h.underway r hr b.state.1 b.state.2
  have hstate : (b.settle r rest).state.2 = b.state.2 ++ talk.map (r.operation, ·) := hsaid
  refine ⟨(operations_settle hperm).trans h.parts, fun x hx => ?_, fun r' hr' => ?_,
    fun o ho => ?_, ?_⟩
  · rw [hstate]
    rcases List.mem_append.mp hx with hx | hx
    · rw [talkOf_other (ne_ended (h.nodup hd) hx (List.mem_append_left _ hunder)).symm]
      exact h.ended x hx
    · rw [List.mem_singleton.mp hx, talkOf_own]
      exact hresult
  · rw [hstate, talkOf_other (settled_ne (h.nodup hd) hperm hr').symm]
    exact h.underway r' (hperm.mem_iff.mp (List.mem_cons_of_mem _ hr'))
  · rw [hstate, talkOf_other (ne_underway (h.nodup hd) hr ho)]
    exact h.unsaid o ho
  · rw [hstate]
    exact own_append h.own
      (h.parts.mem_iff.mp (List.mem_append_right _ (List.mem_append_left _ hunder)))

/-- From the first event to the last, what is said in a call goes with what comes of it. -/
theorem told_run (role : RoleId) (hd : operations.Nodup) (hbegin : GoesBy P limits.timeout begin)
    (s : σ) :
    let b := run (rules begin limits role) operations (s, [])
    Told P operations b ∧ b.waiting = [] ∧ b.running = [] := by
  refine run_induction (P := fun b => Told P operations b) (fun h hs => ?_) _
    (told_ofOperations P operations s)
  cases hs with
  | start hw => exact h.start hd hbegin hw
  | settle hr => exact h.settle hd (earliest?_perm hr)

/-- Each operation has one outcome, which goes with what was said in its call, and there are no
others. -/
theorem told_changeAll {begin : RoleId → Nat → Operation →
      StateM (σ × List (Operation × τ)) (Pending (σ × List (Operation × τ)))}
    (hd : operations.Nodup) (hbegin : GoesBy P limits.timeout (begin role)) (elapse : Nat → σ → σ)
    (s : σ) :
    let changed := (changeAll begin (watchedElapse elapse) limits role operations).run (s, [])
    (∀ x ∈ changed.1, x.operation ∈ operations) ∧ (∀ x ∈ changed.2.2, x.1 ∈ operations) ∧
    ∀ o ∈ operations, ∃ result, P o (talkOf o changed.2.2) result ∧
      ∀ result', ⟨o, result'⟩ ∈ changed.1 ↔ result' = result := by
  obtain ⟨h, hw, hr⟩ := told_run role hd hbegin s
  have hparts := h.parts
  rw [Batch.operations, hw, hr, List.map_nil, List.append_nil, List.append_nil] at hparts
  refine ⟨fun x hx => ?_, h.own, fun o ho => ?_⟩
  · obtain ⟨y, hy, rfl⟩ := List.mem_map.mp hx
    exact hparts.mem_iff.mp (List.mem_map_of_mem hy)
  obtain ⟨x, hx, rfl⟩ := List.mem_map.mp (hparts.mem_iff.mpr ho)
  refine ⟨x.result, h.ended x hx, fun result' => ⟨fun hm => ?_, ?_⟩⟩
  · obtain ⟨x', hx', he⟩ := List.mem_map.mp hm
    obtain ⟨hoperation, rfl⟩ := Outcome.mk.inj he
    rw [List.inj_on_of_nodup_map (hparts.nodup_iff.mpr hd) hx' hx hoperation]
  · rintro rfl
    exact List.mem_map_of_mem hx

end Rolebook.FanOut
