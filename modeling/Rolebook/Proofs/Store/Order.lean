import Rolebook.Proofs.Store.Batch

/-!
# The order in which calls come to an end

Nothing tells in which order the calls of a batch reach the store, nor in which order they come to
an end. `order_irrelevant` says that neither shows: every order leaves the same store, answers each
operation the same way and makes the same report. It rests on two facts, that a plan never names a
user twice (so that its changes commute, `applyChanges_perm`), and that a report sorts by operation
alone, which decides the order of the failures since no operation fails twice (`ofOutcomes_perm`).
-/

namespace Rolebook.Store

/-- No operation fails twice in a batch that names no user twice. -/
theorem failures_nodup {os : List Operation} (h : (os.map Operation.user).Nodup)
    (answers : Operation → Except Fault Unit) :
    (((os.map fun o => (⟨o, answers o⟩ : Outcome)).filterMap Outcome.failure?).map
      (·.operation)).Nodup := by
  have hperm := Report.filterMap_perm_operations (os.map fun o => (⟨o, answers o⟩ : Outcome))
  have hid : (fun x : Outcome => x.operation) ∘ (fun o => (⟨o, answers o⟩ : Outcome)) = id := rfl
  rw [List.map_map, hid, List.map_id] at hperm
  have hnodup := hperm.nodup_iff.mpr (List.Nodup.of_map _ h)
  exact (List.nodup_append.mp hnodup).2.1

/-- **The order of calls does not show.** Whatever the order in which the operations of a plan are
carried out and the order in which they are then reported, the store, the outcome of each operation
and the report are those of carrying them out as planned. The report depends as little on the order
of any outcomes in which no operation failed twice. -/
theorem order_irrelevant :
    (∀ (s : Store) (plan : Plan) (os : List Operation) (ended : List Outcome), plan.Made →
      os.Perm plan.operations → ended.Perm ((changeAll plan.role os).run s).1 →
        ((changeAll plan.role os).run s).2 = ((changeAll plan.role plan.operations).run s).2 ∧
        (∀ x : Outcome, x ∈ ((changeAll plan.role os).run s).1 ↔
          x ∈ ((changeAll plan.role plan.operations).run s).1) ∧
        Report.ofOutcomes plan.role ended
          = Report.ofOutcomes plan.role ((changeAll plan.role plan.operations).run s).1) ∧
    ∀ (role : RoleId) (outcomes ended : List Outcome),
      ((outcomes.filterMap Outcome.failure?).map (·.operation)).Nodup → ended.Perm outcomes →
        Report.ofOutcomes role ended = Report.ofOutcomes role outcomes := by
  refine ⟨fun s plan os ended hplan hos hended => ?_, fun role outcomes ended hd hp =>
    (Report.ofOutcomes_perm role hp.symm hd).symm⟩
  rw [run_changeAll] at hended ⊢
  rw [run_changeAll]
  have hnodup := hplan.consistent.users_nodup
  have houtcomes : (os.map fun o => (⟨o, s.answer plan.role o⟩ : Outcome)).Perm
      (plan.operations.map fun o => ⟨o, s.answer plan.role o⟩) := hos.map _
  refine ⟨?_, fun x => houtcomes.mem_iff, ?_⟩
  · have haccepted : ((s.accepted plan.role plan.operations).map Operation.user).Nodup :=
      hnodup.sublist (List.filter_sublist.map _)
    exact applyChanges_perm s plan.role haccepted (hos.filter _)
  · have hended := hended.trans houtcomes
    exact (Report.ofOutcomes_perm plan.role hended.symm (failures_nodup hnodup _)).symm

/-- One user gets a role for whom calls fail and another loses it, in either order. -/
theorem order_irrelevant_reversed :
    let plan := Plan.compute ⟨⟨7, by decide⟩⟩ [⟨⟨2, by decide⟩⟩] [⟨⟨1, by decide⟩⟩]
    ((changeAll plan.role plan.operations.reverse).run (empty.after unlucky)).2
      = ((changeAll plan.role plan.operations).run (empty.after unlucky)).2 := by
  intro plan
  have h := order_irrelevant.1 (empty.after unlucky) plan plan.operations.reverse _
    (.compute ..) (List.reverse_perm _) (.refl _)
  exact h.1

end Rolebook.Store
