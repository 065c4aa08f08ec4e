import Rolebook.Gateway

/-!
# What is put on record

Many computations here keep a record beside their state, of the requests that were sent or of the
events that were seen. `Sends P` says of a computation that whatever it adds to its record has the
property `P`; it survives every way of putting computations together, so that it holds of a program
once it holds of the calls the program is made of.
-/

namespace Rolebook

variable {σ ω α β : Type}

/-- All that a computation adds to the record has a property. -/
def Sends (P : ω → Prop) (x : StateM (σ × List ω) α) : Prop :=
  ∀ s sent, ∃ new, (x.run (s, sent)).2.2 = sent ++ new ∧ ∀ r ∈ new, P r

namespace Sends

variable {P : ω → Prop}

theorem pure (a : α) : Sends P (Pure.pure a : StateM (σ × List ω) α) :=
  fun _ sent => ⟨[], (List.append_nil sent).symm, List.forall_mem_nil P⟩

/-- What is sent by one computation and then another is what the first sends and what the second
sends. -/
theorem bind {x : StateM (σ × List ω) α} {k : α → StateM (σ × List ω) β}
    (hx : Sends P x) (hk : ∀ a, Sends P (k a)) : Sends P (x >>= k) := by
  intro s sent
  obtain ⟨new, hnew, hP⟩ := hx s sent
  obtain ⟨new', hnew', hP'⟩ := hk (x.run (s, sent)).1 (x.run (s, sent)).2.1 (x.run (s, sent)).2.2
  refine ⟨new ++ new', ?_, List.forall_mem_append.mpr ⟨hP, hP'⟩⟩
  show ((k (x.run (s, sent)).1).run ((x.run (s, sent)).2.1, (x.run (s, sent)).2.2)).2.2 = _
  rw [hnew', hnew, List.append_assoc]

/-- A computation that stops at a fault sends no more. -/
theorem bind_attempt {x : Attempt (StateM (σ × List ω)) α}
    {k : α → Attempt (StateM (σ × List ω)) β} (hx : Sends P x.run)
    (hk : ∀ a, Sends P (k a).run) : Sends P (x >>= k).run := by
  rw [ExceptT.run_bind]
  refine hx.bind fun result => ?_
  cases result with
  | ok a => exact hk a
  | error fault => exact pure _

theorem lift {x : StateM (σ × List ω) α} (hx : Sends P x) :
    Sends P (ExceptT.lift x : Attempt (StateM (σ × List ω)) α).run := hx

theorem ofExcept (r : Except Fault α) :
    Sends P (liftExcept r : Attempt (StateM (σ × List ω)) α).run := by
  cases r <;> exact pure _

/-- What is known of all that is sent may be weakened. -/
theorem mono {Q : ω → Prop} {x : StateM (σ × List ω) α} (hx : Sends P x)
    (h : ∀ r, P r → Q r) : Sends Q x := fun s sent =>
  let ⟨new, hnew, hP⟩ := hx s sent
  ⟨new, hnew, fun r hr => h r (hP r hr)⟩

end Sends

end Rolebook
