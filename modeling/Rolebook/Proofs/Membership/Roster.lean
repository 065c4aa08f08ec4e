import Mathlib.Data.List.Forall2
import Rolebook.Assignment
import Rolebook.Proofs.Administrator.Members

/-!
# Rosters

What memberships come to is a roster: which roles and which users there are, and who holds what.
`Roster.Step` says in these terms what a call about members answers and what it leaves. A role that
is unknown, or a user who is to get a role and is unknown, is not found; anything else succeeds, and
giving a role to one who holds it or taking it from one who does not changes nothing.

A backend goes by rosters (`GoesBy`) if its states can be viewed as rosters so that each of its
calls is such a step. Steps are determined but for what rosters do not tell, so two backends that go
by rosters and start from the same one answer alike and stay alike (`GoesBy.alike`).
-/

namespace Rolebook

/-- Which roles and users there are, and who holds what. -/
@[ext] structure Roster where
  roles : RoleId → Prop
  users : UserId → Prop
  held : Assignment → Prop

namespace Roster

variable {v : Roster} {a : Assignment}

/-- Both the role and the user of an assignment are there. -/
def Knows (v : Roster) (a : Assignment) : Prop := v.roles a.role ∧ v.users a.user

/-- The roster with a role given to a user. -/
def add (v : Roster) (a : Assignment) : Roster := { v with held := fun x => x = a ∨ v.held x }

/-- The roster with a role taken from a user. -/
def remove (v : Roster) (a : Assignment) : Roster := { v with held := fun x => v.held x ∧ x ≠ a }

/-- Only roles that are there are held, and only by users who are there. -/
def Coherent (v : Roster) : Prop := ∀ a, v.held a → v.Knows a

/-- To give a role to who has it changes nothing. -/
theorem add_of_held (h : v.held a) : v.add a = v := by
  refine Roster.ext rfl rfl (funext fun x => propext ?_)
  exact ⟨fun hx => hx.elim (fun he => he ▸ h) id, Or.inr⟩

/-- To take a role from who has it not changes nothing. -/
theorem remove_of_not_held (h : ¬ v.held a) : v.remove a = v := by
  refine Roster.ext rfl rfl (funext fun x => propext ?_)
  exact ⟨And.left, fun hx => ⟨hx, fun he => h (he ▸ hx)⟩⟩

end Roster

/-! ## Calls about members -/

/-- A call about members. -/
inductive MemberCall where
  | change (id : RoleId) (o : Operation)
  | getRole (id : RoleId)
  | members (id : RoleId)

namespace MemberCall

/-- What a call about members answers. -/
inductive Answer where
  | done
  | role (r : Role)
  | users (us : List User)

/-- The role that a call is about. -/
def role : MemberCall → RoleId
  | change id _ | getRole id | members id => id

section Runs

variable {m : Type → Type} [Monad m]

/-- Makes a call. -/
def make (g : Gateway m) : MemberCall → Attempt m Answer
  | change id o => do
    g.change id o
    return .done
  | getRole id => return .role (← g.getRole id)
  | members id => return .users (← g.listMembers id)

/-- Makes calls one after the other. -/
def run (g : Gateway m) (calls : List MemberCall) : m (List (Except Fault Answer)) :=
  calls.mapM fun c => (c.make g).run

end Runs

/-- Two answers say the same as far as members go. -/
inductive Agree : Except Fault Answer → Except Fault Answer → Prop where
  | done : Agree (.ok .done) (.ok .done)
  | role {r r' : Role} (same : r.id = r'.id) : Agree (.ok (.role r)) (.ok (.role r'))
  | users {us us' : List User} (same : ∀ u, u ∈ us.map (·.id) ↔ u ∈ us'.map (·.id)) :
      Agree (.ok (.users us)) (.ok (.users us'))
  | notFound {fault fault' : Fault} (kind : fault.kind = .notFound)
      (kind' : fault'.kind = .notFound) : Agree (.error fault) (.error fault')

end MemberCall

open MemberCall (Answer Agree)

/-- What a call about members answers and leaves. -/
inductive Roster.Step (v : Roster) : MemberCall → Except Fault Answer → Roster → Prop where
  | assign {id : RoleId} {u : UserId} (known : v.Knows ⟨u, id⟩) :
      Step v (.change id (.assign u)) (.ok .done) (v.add ⟨u, id⟩)
  | unassign {id : RoleId} (u : UserId) (known : v.roles id) :
      Step v (.change id (.unassign u)) (.ok .done) (v.remove ⟨u, id⟩)
  | getRole {id : RoleId} {r : Role} (known : v.roles id) (asked : r.id = id) :
      Step v (.getRole id) (.ok (.role r)) v
  | members {id : RoleId} {us : List User} (known : v.roles id)
      (holders : ∀ u, u ∈ us.map (·.id) ↔ v.held ⟨u, id⟩) :
      Step v (.members id) (.ok (.users us)) v
  | unknownRole {c : MemberCall} {fault : Fault} (unknown : ¬ v.roles c.role)
      (kind : fault.kind = .notFound) : Step v c (.error fault) v
  | unknownUser {id : RoleId} {u : UserId} {fault : Fault} (unknown : ¬ v.users u)
      (kind : fault.kind = .notFound) : Step v (.change id (.assign u)) (.error fault) v

namespace Roster.Step

variable {v w w' : Roster} {c : MemberCall} {x y : Except Fault Answer}

/-- If the role and the user are not both known, one of them is the reason. -/
theorem assignUnknown {a : Assignment} {fault : Fault} (unknown : ¬ v.Knows a)
    (kind : fault.kind = .notFound) : v.Step (.change a.role (.assign a.user)) (.error fault) v := by
  by_cases hrole : v.roles a.role
  · exact .unknownUser (fun huser => unknown ⟨hrole, huser⟩) kind
  · exact .unknownRole hrole kind

/-- Two steps for the same call answer alike and leave the same. -/
theorem agree (h : v.Step c x w) (h' : v.Step c y w') : Agree x y ∧ w = w' := by
  cases h with
  | assign known =>
    cases h' with
    | assign => exact ⟨.done, rfl⟩
    | unknownRole unknown => exact absurd known.1 unknown
    | unknownUser unknown => exact absurd known.2 unknown
  | unassign u known =>
    cases h' with
    | unassign => exact ⟨.done, rfl⟩
    | unknownRole unknown => exact absurd known unknown
  | getRole known asked =>
    cases h' with
    | getRole _ asked' => exact ⟨.role (asked.trans asked'.symm), rfl⟩
    | unknownRole unknown => exact absurd known unknown
  | members known holders =>
    cases h' with
    | members _ holders' => exact ⟨.users fun u => (holders u).trans (holders' u).symm, rfl⟩
    | unknownRole unknown => exact absurd known unknown
  | unknownRole unknown kind =>
    cases h' with
    | assign known => exact absurd known.1 unknown
    | unassign _ known | getRole known | members known => exact absurd known unknown
    | unknownRole _ kind' | unknownUser _ kind' => exact ⟨.notFound kind kind', rfl⟩
  | unknownUser unknown kind =>
    cases h' with
    | assign known => exact absurd known.2 unknown
    | unknownRole _ kind' | unknownUser _ kind' => exact ⟨.notFound kind kind', rfl⟩

/-- Each step keeps a roster coherent: who holds a role is on it, and so is the role. -/
theorem coherent (h : v.Step c x w) (hv : v.Coherent) : w.Coherent := by
  cases h with
  | assign known =>
    rintro a (rfl | ha)
    · exact known
    · exact hv a ha
  | unassign => exact fun a ha => hv a ha.1
  | getRole | members | unknownRole | unknownUser => exact hv

/-- A change that was made is made again, and changes nothing. -/
theorem again {id : RoleId} {o : Operation} (h : v.Step (.change id o) (.ok .done) w)
    (h' : w.Step (.change id o) x w') : x = .ok .done ∧ w' = w := by
  cases h with
  | assign known =>
    cases h' with
    | assign => exact ⟨rfl, add_of_held (Or.inl rfl)⟩
    | unknownRole unknown => exact absurd known.1 unknown
    | unknownUser unknown => exact absurd known.2 unknown
  | unassign u known =>
    cases h' with
    | unassign => exact ⟨rfl, remove_of_not_held fun hheld => hheld.2 rfl⟩
    | unknownRole unknown => exact absurd known unknown

end Roster.Step

/-! ## Backends that go by rosters -/

section GoesBy

variable {σ τ : Type}

/-- In states of a kind that calls keep to, each call of a gateway is a step on the roster that its
state is viewed as. -/
def GoesBy (g : Gateway (StateM σ)) (view : σ → Roster) (kept : σ → Prop) : Prop :=
  ∀ s, kept s → ∀ c : MemberCall,
    (view s).Step c ((c.make g).run.run s).1 (view ((c.make g).run.run s).2) ∧
      kept ((c.make g).run.run s).2

variable {g : Gateway (StateM σ)} {g' : Gateway (StateM τ)} {view : σ → Roster}
  {view' : τ → Roster} {kept : σ → Prop} {kept' : τ → Prop} {s : σ} {t : τ}

/-- Backends that go by rosters and start from the same one answer alike and stay alike. -/
theorem GoesBy.alike (hg : GoesBy g view kept) (hg' : GoesBy g' view' kept') (hs : kept s)
    (ht : kept' t) (hmatch : view s = view' t) (calls : List MemberCall) :
    List.Forall₂ Agree ((MemberCall.run g calls).run s).1 ((MemberCall.run g' calls).run t).1 ∧
      view ((MemberCall.run g calls).run s).2 = view' ((MemberCall.run g' calls).run t).2 ∧
      kept ((MemberCall.run g calls).run s).2 ∧ kept' ((MemberCall.run g' calls).run t).2 := by
  induction calls generalizing s t with
  | nil => exact ⟨.nil, hmatch, hs, ht⟩
  | cons c calls ih =>
    obtain ⟨hstep, hkept⟩ := hg s hs c
    obtain ⟨hstep', hkept'⟩ := hg' t ht c
    rw [← hmatch] at hstep'
    obtain ⟨hagree, hleft⟩ := hstep.agree hstep'
    obtain ⟨hanswers, hrest⟩ := ih hkept hkept' hleft
    rw [MemberCall.run, MemberCall.run, List.mapM_cons, List.mapM_cons]
    exact ⟨.cons hagree hanswers, hrest⟩

theorem run_attempt_map {α β : Type} (x : Attempt (StateM σ) α) (f : α → β) (s : σ) :
    (x >>= fun a => pure (f a)).run.run s = ((x.run.run s).1.map f, (x.run.run s).2) := by
  rw [Administrator.run_attempt_bind]
  rcases x.run.run s with ⟨_ | _, _⟩ <;> rfl

theorem run_make_change (g : Gateway (StateM σ)) (id : RoleId) (o : Operation) (s : σ) :
    ((MemberCall.change id o).make g).run.run s
      = (((g.change id o).run.run s).1.map fun _ => .done, ((g.change id o).run.run s).2) :=
  run_attempt_map _ _ s

theorem run_make_getRole (g : Gateway (StateM σ)) (id : RoleId) (s : σ) :
    ((MemberCall.getRole id).make g).run.run s
      = (((g.getRole id).run.run s).1.map .role, ((g.getRole id).run.run s).2) :=
  run_attempt_map _ _ s

theorem run_make_members (g : Gateway (StateM σ)) (id : RoleId) (s : σ) :
    ((MemberCall.members id).make g).run.run s
      = (((g.listMembers id).run.run s).1.map .users, ((g.listMembers id).run.run s).2) :=
  run_attempt_map _ _ s

/-- What was done to a role's members can be done again, and then changes nothing. -/
theorem GoesBy.again (hg : GoesBy g view kept) (hs : kept s) {id : RoleId} {o : Operation}
    (h : ((g.change id o).run.run s).1 = .ok ()) :
    let left := ((g.change id o).run.run s).2
    ((g.change id o).run.run left).1 = .ok () ∧
      view ((g.change id o).run.run left).2 = view left := by
  intro left
  obtain ⟨hfirst, hleft⟩ := hg s hs (.change id o)
  obtain ⟨hsecond, -⟩ := hg left (by rw [run_make_change] at hleft; exact hleft) (.change id o)
  rw [run_make_change] at hfirst hsecond
  rw [h] at hfirst
  obtain ⟨hanswer, hsame⟩ := Roster.Step.again hfirst hsecond
  refine ⟨?_, hsame⟩
  cases hagain : ((g.change id o).run.run left).1 with
  | ok _ => rfl
  | error fault => rw [hagain] at hanswer; cases hanswer

end GoesBy

end Rolebook
