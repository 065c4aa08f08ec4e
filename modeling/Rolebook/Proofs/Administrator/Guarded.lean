import Rolebook.Proofs.Administrator.Roles
import Rolebook.Proofs.Administrator.Watched
import Rolebook.Proofs.Gateway.Normal

/-!
# Changes of roles, call by call

What a change of a role asks of a backend, whatever the backend answers. An update or a deletion is
asked for only after a reading has shown a role that can be changed (`letThrough`), and a creation
only under a name that is not blank. What is asked for then is in normal form.

`changes_guarded` reads this off the record of a gateway under watch.
-/

namespace Rolebook.Administrator

variable {σ α : Type}

/-- How a change of a role ends that goes by what a reading of the role has shown: its answer, what
it leaves, and what was asked. A fault of the reading and a system role are the end of it. -/
def letThrough (id : RoleId) (read : Except Fault Role × σ) (c : Gateway.Call)
    (change : σ → Except Fault α × σ) : Except Fault α × σ × List Event :=
  match read with
  | (.error fault, s) => (.error fault, s, [.asked (.getRole id)])
  | (.ok r, s) =>
    if r.isSystem then (.error (.systemRole r.name.text), s, [.asked (.getRole id)])
    else ((change s).1, (change s).2, [.asked (.getRole id), .asked c])

/-- What a computation does without watch can be read off what it does under watch. -/
theorem run_of_alike_watched {x' : StateM (σ × List Event) α} {x : StateM σ α}
    (h : Alike (fun s' s => s'.1 = s) x' x) (s : σ) (before : List Event) :
    x.run s = ((x'.run (s, before)).1, (x'.run (s, before)).2.1) :=
  Prod.ext (h (s, before) s rfl).1.symm (h (s, before) s rfl).2.symm

variable (g : Gateway (StateM σ)) (begin : RoleId → Nat → Operation → StateM σ (Pending σ))
  (elapse : Nat → σ → σ) (limits : Limits)

/-- A change that comes after a check is let through by what the check has read. -/
theorem run_guarded_watched (id : RoleId) (c : Gateway.Call) (change : Attempt (StateM σ) α)
    (s : σ) :
    (requireMutable ⟨g.watched begin elapse, limits⟩ id >>= fun _ =>
        Gateway.asking c change).run.run (s, [])
      = letThrough id ((g.getRole id).run.run s) c change.run.run := by
  have hread : ((g.watched begin elapse).getRole id).run.run (s, [])
      = (((g.getRole id).run.run s).1, ((g.getRole id).run.run s).2, [.asked (.getRole id)]) := rfl
  rw [run_guarded, hread]
  rcases (g.getRole id).run.run s with ⟨_ | r, s'⟩
  · rfl
  · unfold letThrough
    cases hsystem : r.isSystem <;> simp only [hsystem] <;> rfl

/-- What is on record after an update: the look at the role, and then the update in its normal form
if the role may be changed. -/
theorem run_updateRole_watched (id : RoleId) (e : RoleEdit) (s : σ) :
    (updateRole ⟨g.watched begin elapse, limits⟩ id e).run.run (s, [])
      = letThrough id ((g.getRole id).run.run s) (.updateRole id e.normal)
          (g.updateRole id e.normal).run.run :=
  run_guarded_watched g begin elapse limits id _ _ s

/-- What is on record after a deletion: the look at the role, and then the deletion if the role may
be changed. -/
theorem run_deleteRole_watched (id : RoleId) (s : σ) :
    (deleteRole ⟨g.watched begin elapse, limits⟩ id).run.run (s, [])
      = letThrough id ((g.getRole id).run.run s) (.deleteRole id) (g.deleteRole id).run.run :=
  run_guarded_watched g begin elapse limits id _ _ s

/-- A creation is asked for under the name trimmed, and not at all if nothing is left of it. -/
theorem run_createRole_watched (d : RoleDraft) (s : σ) :
    (createRole ⟨g.watched begin elapse, limits⟩ d).run.run (s, []) =
      match NonBlank.ofText? d.name with
      | some name =>
        let created := (g.createRole (d.normal name)).run.run s
        (created.1, created.2, [.asked (.createRole (d.normal name))])
      | none => (.error .blank, s, []) := by
  rw [run_createRole]
  cases NonBlank.ofText? d.name <;> rfl

/-- **What a change of a role asks of a backend.** Whatever the backend answers, and watched or not:
an update or a deletion first reads the role once. If that fails, or shows a system role, the change
fails with the same fault, or as forbidden, and nothing else is asked; if not, the change is asked
for once, and its answer is the answer. A creation under a blank name is invalid and asks nothing,
and under any other name asks once. What is sent is in normal form: it tidies what was given, and is
just that if and only if that was in normal form already. -/
theorem changes_guarded (g : Gateway (StateM σ))
    (begin : RoleId → Nat → Operation → StateM σ (Pending σ)) (elapse : Nat → σ → σ)
    (limits : Limits) (s : σ) :
    let unwatched : Administrator (StateM σ) := ⟨g, limits⟩
    let watched : Administrator (StateM (σ × List Event)) := ⟨g.watched begin elapse, limits⟩
    (∀ name, (Fault.systemRole name).kind = .forbidden) ∧ Fault.blank.kind = .validation ∧
    (∀ (id : RoleId) (e : RoleEdit), ∃ sent : RoleEdit,
      sent.IsNormal ∧ sent.Tidies e ∧ (e.IsNormal ↔ sent = e) ∧
      let updated := (watched.updateRole id e).run.run (s, [])
      (unwatched.updateRole id e).run.run s = (updated.1, updated.2.1) ∧
      updated = letThrough id ((g.getRole id).run.run s) (.updateRole id sent)
        (g.updateRole id sent).run.run) ∧
    (∀ id : RoleId,
      let deleted := (watched.deleteRole id).run.run (s, [])
      (unwatched.deleteRole id).run.run s = (deleted.1, deleted.2.1) ∧
      deleted = letThrough id ((g.getRole id).run.run s) (.deleteRole id)
        (g.deleteRole id).run.run) ∧
    ∀ d : RoleDraft,
      let created := (watched.createRole d).run.run (s, [])
      (unwatched.createRole d).run.run s = (created.1, created.2.1) ∧
      if Text.trim d.name = "" then created = (.error .blank, s, [])
      else ∃ sent : RoleDraft, sent.IsNormal ∧ sent.Tidies d ∧ (d.IsNormal ↔ sent = d) ∧
        created = (((g.createRole sent).run.run s).1, ((g.createRole sent).run.run s).2,
          [.asked (.createRole sent)]) := by
  intro unwatched watched
  have halike : AlikeGateways (fun s' s => s'.1 = s) true (g.watched begin elapse)
      (g.batching begin elapse) := alikeGateways_watched g begin elapse
  refine ⟨fun _ => rfl, rfl, fun id e => ?_, fun id => ?_, fun d => ⟨?_, ?_⟩⟩
  · refine ⟨e.normal, e.isNormal_normal, e.tidies_normal, e.isNormal_iff, ?_, ?_⟩
    · exact run_of_alike_watched (alike_updateRole limits halike id e) s []
    · exact run_updateRole_watched g begin elapse limits id e s
  · refine ⟨?_, run_deleteRole_watched g begin elapse limits id s⟩
    exact run_of_alike_watched (alike_deleteRole limits halike id) s []
  · exact run_of_alike_watched (alike_createRole limits halike d) s []
  · show if _ then (watched.createRole d).run.run (s, []) = _ else _
    rw [run_createRole_watched]
    cases hname : NonBlank.ofText? d.name with
    | none => rw [if_pos ((NonBlank.ofText?_eq_none_iff d.name).mp hname)]
    | some name =>
      have hnot : Text.trim d.name ≠ "" := fun h => by
        rw [(NonBlank.ofText?_eq_none_iff d.name).mpr h] at hname
        cases hname
      have htext : name.text = Text.trim d.name := NonBlank.text_of_ofText? hname
      rw [if_neg hnot]
      exact ⟨d.normal name, d.isNormal_normal name, RoleDraft.tidies_normal htext,
        RoleDraft.isNormal_iff htext, rfl⟩

end Rolebook.Administrator
