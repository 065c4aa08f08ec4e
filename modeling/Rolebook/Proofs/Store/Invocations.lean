import Rolebook.Proofs.Administrator.Alike
import Rolebook.Proofs.Store.Save

/-!
# Invocations

A store is not only changed by acts of its own: it is used by administrators, task by task, and by
commands. An invocation is any one of these from start to end, and `undergo` is what a run of
invocations leaves. A task or a command changes a store by nothing but the calls it makes
(`Invocation.Involves`), so a property that each of the acts involved keeps is kept by the run
(`undergo_keeps`).
-/

namespace Rolebook

/-- Whether a call can create a role. -/
def Gateway.Call.creates : Gateway.Call → Bool
  | .createRole _ => true
  | _ => false

namespace Store

open Administrator (Task)

/-- Something done to a store: by itself, by a task of an administrator, or by a command. -/
inductive Invocation where
  | act (a : Act)
  | administer (m : Moment) (limits : Limits) (t : Task)
  | command (m : Moment) (limits : Limits) (c : Command)

/-- The store after an invocation. -/
def Invocation.apply (s : Store) : Invocation → Store
  | .act a => a.apply s
  | .administer m limits t => ((t.perform (administrator m limits)).run.run s).2
  | .command m limits c => ((c.run (administrator m limits)).run.run s).2

/-- The store after a run of invocations. -/
def undergo (s : Store) (history : List Invocation) : Store := history.foldl Invocation.apply s

/-- The acts that an invocation can be made up of: a role is created only by what is there to create
one. -/
def Invocation.Involves : Invocation → Act → Prop
  | .act a, b => b = a
  | .administer m _ t, b =>
    ∃ c : Gateway.Call, b = .call m c ∧ (c.creates = true → t.creates = true)
  | .command m _ c', b =>
    ∃ c : Gateway.Call, b = .call m c ∧ (c.creates = true → c'.creates = true)

/-- A batch leaves what its changes leave, made one by one. -/
theorem leave_changeAll (m : Moment) (id : RoleId) (os : List Operation) (s : Store) :
    ((changeAll id os).run s).2 = s.after (os.map fun o => .call m (.change id o)) := by
  induction os generalizing s with
  | nil => rfl
  | cons o os ih =>
    rw [changeAll, List.mapM_cons, Routine.run_bind, Routine.run_bind, Routine.run_bind]
    exact ih _

section Keeps

variable {P : Store → Prop} {s : Store}

/-- What each act keeps, a run of acts keeps. -/
theorem after_keeps {acts : List Act} (h : ∀ a ∈ acts, ∀ s, P s → P (a.apply s)) (hs : P s) :
    P (s.after acts) := by
  induction acts generalizing s with
  | nil => exact hs
  | cons a acts ih =>
    exact ih (fun b hb => h b (List.mem_cons_of_mem _ hb)) (h a (List.mem_cons_self ..) s hs)

/-- What each call keeps, the gateway keeps. -/
theorem alikeGateways_of_keeps {m : Moment} {creating : Bool}
    (h : ∀ c : Gateway.Call, (c.creates = true → creating = true) →
      ∀ s, P s → P ((Act.call m c).apply s)) :
    AlikeGateways (fun s' s => s' = s ∧ P s) creating (gateway m.fresh m.now)
      (gateway m.fresh m.now) where
  listRoles := by
    rintro _ s ⟨rfl, hs⟩
    exact ⟨rfl, rfl, h .listRoles nofun _ hs⟩
  getRole id := by
    rintro _ s ⟨rfl, hs⟩
    exact ⟨rfl, rfl, h (.getRole id) nofun _ hs⟩
  createRole hc d := by
    rintro _ s ⟨rfl, hs⟩
    exact ⟨rfl, rfl, h (.createRole d) (fun _ => hc) _ hs⟩
  updateRole id e := by
    rintro _ s ⟨rfl, hs⟩
    exact ⟨rfl, rfl, h (.updateRole id e) nofun _ hs⟩
  deleteRole id := by
    rintro _ s ⟨rfl, hs⟩
    exact ⟨rfl, rfl, h (.deleteRole id) nofun _ hs⟩
  listPermissions := by
    rintro _ s ⟨rfl, hs⟩
    exact ⟨rfl, rfl, hs⟩
  listUsers := by
    rintro _ s ⟨rfl, hs⟩
    exact ⟨rfl, rfl, hs⟩
  listMembers id := by
    rintro _ s ⟨rfl, hs⟩
    exact ⟨rfl, rfl, h (.members id) nofun _ hs⟩
  changeAll _ id os := by
    rintro _ s ⟨rfl, hs⟩
    refine ⟨rfl, rfl, ?_⟩
    show P ((changeAll id os).run _).2
    rw [leave_changeAll m]
    refine after_keeps (fun a ha => ?_) hs
    obtain ⟨o, -, rfl⟩ := List.mem_map.mp ha
    exact h (.change id o) nofun

/-- What each act of an invocation keeps, the invocation keeps. -/
theorem Invocation.keeps {d : Invocation} (h : ∀ a, d.Involves a → ∀ s, P s → P (a.apply s))
    (hs : P s) : P (d.apply s) := by
  cases d with
  | act a => exact h a rfl s hs
  | administer m limits t =>
    -- one gateway in both places: acting alike is then keeping the property
    have hcalls := alikeGateways_of_keeps fun c hc => h (.call m c) ⟨c, rfl, hc⟩
    exact (t.alike limits hcalls s s ⟨rfl, hs⟩).2.2
  | command m limits c =>
    have hcalls := alikeGateways_of_keeps fun c' hc => h (.call m c') ⟨c', rfl, hc⟩
    exact (c.alike_run limits hcalls s s ⟨rfl, hs⟩).2.2

/-- What each act of each invocation keeps, a run of invocations keeps. -/
theorem undergo_keeps {history : List Invocation}
    (h : ∀ d ∈ history, ∀ a, d.Involves a → ∀ s, P s → P (a.apply s)) (hs : P s) :
    P (s.undergo history) := by
  induction history generalizing s with
  | nil => exact hs
  | cons d history ih =>
    refine ih (fun d' hd' => h d' (List.mem_cons_of_mem _ hd')) ?_
    exact Invocation.keeps (h d (List.mem_cons_self ..)) hs

end Keeps

/-- The store after a run of invocations on the empty store is sound. -/
theorem sound_undergo (history : List Invocation) : (empty.undergo history).Sound :=
  undergo_keeps (fun _ _ a _ _ hs => hs.apply a) sound_empty

end Store

end Rolebook
