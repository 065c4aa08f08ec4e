import Mathlib.Data.List.Induction
import Mathlib.Data.List.Infix
import Rolebook.Proofs.Store.Commit

/-!
# Roles under many calls at once

Any calls are made of a store at the same time, and their steps come in any order. Each call takes
effect in one of its steps, where it does to the roles what it would do by itself
(`Advance.effect`). So what single calls keep is kept at every step: names stay apart, and system
roles stay as they are.

That a role does not come back once it is gone is no matter of single calls: a call that was under
way when the role went may still put one in. An update does not, for it looks for the role in the
step in which it puts it in. A creation does, but under an id of its own, which nobody has used
before (`Unborn`), and only once.

`Orderly` is what every turn keeps of all this, and `no_role_revived` draws the conclusions.
-/

namespace Rolebook.Store

/-! ## What one step brings -/

variable {q : Sent} {s s' : Store} {taken taken' : Bool} {id : RoleId} {r : Role}

/-- A role that is there after a call was there before, or was created by the call. -/
theorem Effect.comes {m : Moment} {c : Gateway.Call} (h : Effect m s c s') (hs : s.Sound)
    (hid : s'.roles.contains id = true) :
    s.roles.contains id = true ∨ (c.creates = true ∧ m.fresh = id) := by
  obtain ⟨r, hr⟩ := Option.isSome_iff_exists.mp hid
  cases h with
  | nothing => exact .inl hid
  | create _ made =>
    rcases SortedMap.find?_insert_eq_some_iff.mp hr with ⟨hkey, -⟩ | ⟨-, hr⟩
    · exact .inr ⟨rfl, (id_of_ofInput made).symm.trans hkey⟩
    · exact .inl (Option.isSome_of_eq_some hr)
  | update _ found _ made =>
    rcases SortedMap.find?_insert_eq_some_iff.mp hr with ⟨hkey, -⟩ | ⟨-, hr⟩
    · rw [← hkey, (id_of_ofInput made).trans (hs.id_of_role found)]
      exact .inl (Option.isSome_of_eq_some (find?_of_role found))
    · exact .inl (Option.isSome_of_eq_some hr)
  | delete => exact .inl (Option.isSome_of_eq_some (find?_dropRole hr))
  | change =>
    rw [roles_applyChange] at hr
    exact .inl (Option.isSome_of_eq_some hr)

/-- Names stay apart when assignments are left out. -/
theorem NamesApart.vacant (hs : s.NamesApart) : s.vacant.NamesApart := by
  refine hs.of_fewer ?_ fun hr => hr
  exact hs.toSound.of_fewer (fun hr => hr) rfl fun ha => absurd ha (SortedSet.not_mem_empty _)

/-- A step keeps names apart. -/
theorem Advance.namesApart (h : Advance q s taken taken' s') (hs : s.vacant.NamesApart) :
    s'.vacant.NamesApart := by
  rcases h.effect with hkept | ⟨-, heffect⟩
  · rw [show s'.vacant = s.vacant from hkept]
    exact hs
  · exact hs.step (a := .call q.moment q.call) (.call heffect)

/-- A step keeps a system role, unless it creates one in its place. -/
theorem Advance.kept (h : Advance q s taken taken' s') (hs : Kept id r s.vacant)
    (hfresh : taken = false → q.call.creates = true → q.moment.fresh ≠ id) :
    Kept id r s'.vacant := by
  rcases h.effect with hkept | ⟨htaken, heffect⟩
  · rw [show s'.vacant = s.vacant from hkept]
    exact hs
  · exact hs.step (avoids_call (hfresh htaken)) (.call heffect)

/-- A role that a step brings is one that the call creates. -/
theorem Advance.comes (h : Advance q s taken taken' s') (hs : s.vacant.Sound)
    (hid : s'.roles.contains id = true) :
    s.roles.contains id = true ∨
      (taken = false ∧ q.call.creates = true ∧ q.moment.fresh = id) := by
  rcases h.effect with hkept | ⟨htaken, heffect⟩
  · rw [hkept.roles_eq] at hid
    exact .inl hid
  · exact (heffect.comes hs hid).imp_right fun hcreated => ⟨htaken, hcreated⟩

/-! ## Calls at the same time -/

/-- Calls made of a store at the same time. -/
structure ConcurrentCalls where
  start : Store
  calls : List Sent

namespace ConcurrentCalls

/-- No id that a new role may get is in use, and no two of them are the same. -/
structure FreshIds (b : ConcurrentCalls) : Prop where
  unused : ∀ q ∈ b.calls, q.call.creates = true → b.start.roles.contains q.moment.fresh = false
  distinct : b.calls.Pairwise fun q q' =>
    q.call.creates = true → q'.call.creates = true → q.moment.fresh ≠ q'.moment.fresh

/-- Where the store and the calls stand after turns in some order. -/
def after (b : ConcurrentCalls) (order : List Nat) : Traffic Store (Except Fault Unit) :=
  Traffic.run ⟨b.start, b.calls.map Sent.routine⟩ order

/-- The store after turns in some order. -/
def state (b : ConcurrentCalls) (order : List Nat) : Store := (b.after order).state

/-- The call at a place is done and has answered so. -/
def Answered (b : ConcurrentCalls) (order : List Nat) (i : Nat) (result : Except Fault Unit) :
    Prop :=
  (b.after order).routines[i]? = some (.done result)

/-- Nothing was stored under an id so far. -/
def Unborn (b : ConcurrentCalls) (order : List Nat) (id : RoleId) : Prop :=
  ∀ before, before <+: order → (b.state before).roles.contains id = false

/-- Something was stored under an id, and nothing is any more. -/
def Gone (b : ConcurrentCalls) (order : List Nat) (id : RoleId) : Prop :=
  ¬ b.Unborn order id ∧ (b.state order).roles.contains id = false

/-- The call at a place has left the store alone in all of its turns. -/
def Idle (b : ConcurrentCalls) (order : List Nat) (i : Nat) : Prop :=
  ∀ before later, order = before ++ i :: later → b.state (before ++ [i]) = b.state before

/-- In the turn that comes after others, the call at a place puts the edited role in, where the role
is stored and can be changed. -/
structure Rewrites (b : ConcurrentCalls) (before : List Nat) (i : Nat) (m : Moment) (id : RoleId)
    (e : RoleEdit) (permissions : List Permission) (old r : Role) : Prop where
  stored : (b.state before).roles.find? id = some old
  custom : old.isSystem = false
  resolved : (b.state before).resolve e.permissions = .ok permissions
  made : edited old m.now e permissions = .ok r
  put : b.state (before ++ [i]) = (b.state before).putRole r

/-- The call at a place has put the edited role in in one of its turns, and has left the store alone
in all others. -/
def Rewrote (b : ConcurrentCalls) (order : List Nat) (i : Nat) (m : Moment) (id : RoleId)
    (e : RoleEdit) : Prop :=
  ∃ before later permissions old r, order = before ++ i :: later ∧
    b.Rewrites before i m id e permissions old r ∧
    ∀ before' later', order = before' ++ i :: later' → before' ≠ before →
      b.state (before' ++ [i]) = b.state before'

variable {b : ConcurrentCalls} {order : List Nat} {i j : Nat}

/-- One more turn. -/
theorem after_concat (b : ConcurrentCalls) (order : List Nat) (i : Nat) :
    b.after (order ++ [i]) = (b.after order).turn i := Traffic.run_concat _ order i

/-! ## One turn more -/

/-- A turn among those up to the last one is the last one, or was among those before. -/
theorem concat_eq_split {before later : List Nat} (h : order ++ [j] = before ++ i :: later) :
    (before = order ∧ j = i) ∨ ∃ later', order = before ++ i :: later' := by
  rcases List.eq_nil_or_concat later with rfl | ⟨later', k, rfl⟩
  · obtain ⟨hbefore, hi⟩ := List.append_inj' h rfl
    exact .inl ⟨hbefore.symm, by simpa using hi⟩
  · have h : order ++ [j] = (before ++ i :: later') ++ [k] := by simpa using h
    exact .inr ⟨later', (List.append_inj' h rfl).1⟩

/-- Nothing was stored under an id so far, and the last turn has stored nothing there. -/
theorem Unborn.concat (h : b.Unborn order id)
    (hlast : (b.state (order ++ [j])).roles.contains id = false) : b.Unborn (order ++ [j]) id := by
  intro before hbefore
  rcases List.prefix_concat_iff.mp hbefore with rfl | hbefore
  · exact hlast
  · exact h before hbefore

/-- What was never stored was not stored before the last turn either. -/
theorem Unborn.of_concat (h : b.Unborn (order ++ [j]) id) : b.Unborn order id := by
  intro before hbefore
  exact h before (hbefore.trans (List.prefix_append order [j]))

/-- A call that has not changed the roles so far, and does not in the last turn, has not changed
them. -/
theorem Idle.concat (h : b.Idle order i)
    (hlast : j = i → b.state (order ++ [i]) = b.state order) : b.Idle (order ++ [j]) i := by
  intro before later heq
  rcases concat_eq_split heq with ⟨rfl, hi⟩ | ⟨later', rfl⟩
  · exact hlast hi
  · exact h before later' rfl

variable {m : Moment} {e : RoleEdit}

/-- A call that has changed the roles once does so no second time, if its last turn changes nothing.
-/
theorem Rewrote.concat (h : b.Rewrote order i m id e)
    (hlast : j = i → b.state (order ++ [i]) = b.state order) :
    b.Rewrote (order ++ [j]) i m id e := by
  obtain ⟨before, later, permissions, old, r, rfl, hrewrites, hothers⟩ := h
  refine ⟨before, later ++ [j], permissions, old, r, by simp, hrewrites, ?_⟩
  intro before' later' heq hne
  rcases concat_eq_split heq with ⟨rfl, hi⟩ | ⟨later'', hsplit⟩
  · exact hlast hi
  · exact hothers before' later'' hsplit hne

/-- The turn that puts the role in makes an idle call one that has put it in. -/
theorem Idle.rewrote {permissions : List Permission} {old r : Role} (h : b.Idle order i)
    (hrewrites : b.Rewrites order i m id e permissions old r) :
    b.Rewrote (order ++ [i]) i m id e := by
  refine ⟨order, [], permissions, old, r, rfl, hrewrites, ?_⟩
  intro before' later' heq hne
  rcases concat_eq_split heq with ⟨hbefore, -⟩ | ⟨later'', hsplit⟩
  · exact absurd hbefore hne
  · exact h before' later'' hsplit

/-! ## What every turn keeps -/

/-- What the call at a place has done so far, by whether it has taken effect. -/
structure Account (b : ConcurrentCalls) (order : List Nat) (i : Nat) (q : Sent) (taken : Bool) :
    Prop where
  unborn : taken = false → q.call.creates = true → b.Unborn order q.moment.fresh
  idle : ∀ id e, q.call = .updateRole id e → taken = false → b.Idle order i
  rewrote : ∀ id e, q.call = .updateRole id e → taken = true → b.Rewrote order i q.moment id e
  removed : ∀ id, q.call = .deleteRole id → taken = true → b.Gone order id

/-- Where the calls and the store stand in the middle of it all. -/
structure Orderly (b : ConcurrentCalls) (order : List Nat) : Prop where
  permissions : (b.state order).permissions = b.start.permissions
  names : (b.state order).vacant.NamesApart
  length : (b.after order).routines.length = b.calls.length
  phases : ∀ (i : Nat) (r : Routine Store (Except Fault Unit)),
    (b.after order).routines[i]? = some r →
      ∃ q taken, b.calls[i]? = some q ∧ Phase b.start.permissions q taken r ∧
        b.Account order i q taken

/-- All is in order before the first turn. -/
theorem orderly_nil (hs : b.start.NamesApart) (hfresh : b.FreshIds) : b.Orderly [] where
  permissions := rfl
  names := hs.vacant
  length := List.length_map Sent.routine
  phases i r hr := by
    have hr : (b.calls.map Sent.routine)[i]? = some r := hr
    rw [List.getElem?_map] at hr
    obtain ⟨q, hq, rfl⟩ := Option.map_eq_some_iff.mp hr
    refine ⟨q, false, hq, phase_routine _ q, ?_, ?_, nofun, nofun⟩
    · intro _ hcreates before hbefore
      rw [List.prefix_nil.mp hbefore]
      exact hfresh.unused q (List.mem_of_getElem? hq) hcreates
    · intro id e _ _ before later heq
      simp at heq

/-- What a turn does, by where the call stands whose turn it is. -/
theorem Orderly.move (h : b.Orderly order) (i : Nat) :
    b.after (order ++ [i]) = b.after order ∨
    ∃ q taken taken' s' r', b.calls[i]? = some q ∧ i < (b.after order).routines.length ∧
      b.Account order i q taken ∧ Advance q (b.state order) taken taken' s' ∧
      Phase b.start.permissions q taken' r' ∧
      b.after (order ++ [i]) = ⟨s', (b.after order).routines.set i r'⟩ := by
  rw [after_concat]
  rcases (b.after order).turn_cases i with hsame | ⟨update, next, hi⟩
  · exact .inl hsame
  · obtain ⟨q, taken, hq, hphase, haccount⟩ := h.phases i _ hi
    cases hphase with
    | step taken' move rest =>
      exact .inr ⟨q, taken, _, _, _, hq, (List.getElem?_eq_some_iff.mp hi).1, haccount,
        move _ h.permissions, rest _ h.permissions, Traffic.turn_step hi⟩

/-- A role that comes up was never there before. -/
theorem Orderly.comes (h : b.Orderly order) (i : Nat)
    (hid : (b.state (order ++ [i])).roles.contains id = true) :
    (b.state order).roles.contains id = true ∨ b.Unborn order id := by
  rcases h.move i with hsame | ⟨q, taken, taken', s', r', hq, -, haccount, hmove, -, hturn⟩
  · rw [state, hsame] at hid
    exact .inl hid
  · rw [state, hturn] at hid
    rcases hmove.comes h.names.toSound hid with hthere | ⟨htaken, hcreates, rfl⟩
    · exact .inl hthere
    · exact .inr (haccount.unborn htaken hcreates)

/-- A role that is gone does not come back in the next turn. -/
theorem Orderly.gone (h : b.Orderly order) (i : Nat) (hgone : b.Gone order id) :
    b.Gone (order ++ [i]) id := by
  refine ⟨mt Unborn.of_concat hgone.1, Bool.eq_false_iff.mpr fun hback => ?_⟩
  rcases h.comes i hback with hthere | hunborn
  · rw [hgone.2] at hthere
    cases hthere
  · exact hgone.1 hunborn

/-- The account of a call stays true over a turn that does not take effect for it. -/
theorem Account.concat (h : b.Account order i q taken) (hb : b.Orderly order)
    (hfresh : taken = false → q.call.creates = true →
      (b.state (order ++ [j])).roles.contains q.moment.fresh = true →
      (b.state order).roles.contains q.moment.fresh = true)
    (halone : ∀ id e, q.call = .updateRole id e → j = i →
      b.state (order ++ [i]) = b.state order) : b.Account (order ++ [j]) i q taken where
  unborn htaken hcreates := by
    have hunborn := h.unborn htaken hcreates
    refine hunborn.concat (Bool.eq_false_iff.mpr fun hthere => ?_)
    have hbefore := hfresh htaken hcreates hthere
    rw [hunborn order (List.prefix_refl order)] at hbefore
    cases hbefore
  idle id e hq htaken := (h.idle id e hq htaken).concat (halone id e hq)
  rewrote id e hq htaken := (h.rewrote id e hq htaken).concat (halone id e hq)
  removed id hq htaken := hb.gone j (h.removed id hq htaken)

/-- The account of the call whose turn it was. -/
theorem Account.turn (h : b.Account order i q taken) (hb : b.Orderly order)
    (hmove : Advance q (b.state order) taken taken' s') (hs' : b.state (order ++ [i]) = s') :
    b.Account (order ++ [i]) i q taken' := by
  cases hmove with
  | idle => exact h.concat hb (fun _ _ hthere => hs' ▸ hthere) fun _ _ _ _ => hs'
  | aside kept other =>
    refine h.concat hb (fun _ _ hthere => ?_) fun id e hq => absurd hq (other id e)
    rw [hs', kept.roles_eq] at hthere
    exact hthere
  | create asked resolved made free =>
    refine ⟨nofun, fun _ _ _ => nofun, fun id e hq => ?_, fun id hq => ?_⟩
    all_goals
      rw [asked] at hq
      cases hq
  | update asked resolved found custom made =>
    refine ⟨nofun, fun _ _ _ => nofun, fun id e hq _ => ?_, fun id hq => ?_⟩
    · cases asked.symm.trans hq
      exact (h.idle _ _ asked rfl).rewrote ⟨find?_of_role found, custom, resolved, made, hs'⟩
    · rw [asked] at hq
      cases hq
  | delete asked found custom =>
    refine ⟨nofun, fun _ _ _ => nofun, fun id e hq => ?_, fun id hq _ => ?_⟩
    · rw [asked] at hq
      cases hq
    · cases asked.symm.trans hq
      refine ⟨fun hunborn => ?_, ?_⟩
      · -- it was there a turn ago
        have hgone := hunborn order (List.prefix_append order [i])
        rw [SortedMap.contains, find?_of_role found] at hgone
        cases hgone
      · rw [hs']
        simp [dropRole, SortedMap.contains, SortedMap.find?_erase]

/-- Two calls that create roles do so under different ids. -/
theorem FreshIds.ne (h : b.FreshIds) {q q' : Sent} (hq : b.calls[i]? = some q)
    (hq' : b.calls[j]? = some q') (hne : i ≠ j) (hcreates : q.call.creates = true)
    (hcreates' : q'.call.creates = true) : q.moment.fresh ≠ q'.moment.fresh := by
  obtain ⟨hi, rfl⟩ := List.getElem?_eq_some_iff.mp hq
  obtain ⟨hj, rfl⟩ := List.getElem?_eq_some_iff.mp hq'
  have hdistinct := List.pairwise_iff_getElem.mp h.distinct
  rcases Nat.lt_or_gt_of_ne hne with hlt | hgt
  · exact hdistinct i j hi hj hlt hcreates hcreates'
  · exact (hdistinct j i hj hi hgt hcreates' hcreates).symm

/-- A turn keeps account of everything. -/
theorem Orderly.turn (hfresh : b.FreshIds) (h : b.Orderly order) (i : Nat) :
    b.Orderly (order ++ [i]) := by
  rcases h.move i with hsame | ⟨q, taken, taken', s', r', hq, hi, haccount, hmove, hphase, hturn⟩
  · -- a call that is done was given a turn
    have hstate : b.state (order ++ [i]) = b.state order := by rw [state, hsame, state]
    refine ⟨hstate ▸ h.permissions, hstate ▸ h.names, hsame ▸ h.length, fun j r hr => ?_⟩
    rw [hsame] at hr
    obtain ⟨q, taken, hq, hphase, haccount⟩ := h.phases j r hr
    refine ⟨q, taken, hq, hphase, haccount.concat h (fun _ _ hthere => hstate ▸ hthere) ?_⟩
    rintro _ _ _ rfl
    exact hstate
  · have hstate : b.state (order ++ [i]) = s' := by rw [state, hturn]
    refine ⟨?_, ?_, ?_, fun j r hr => ?_⟩
    · rw [hstate, hmove.permissions_eq, h.permissions]
    · rw [hstate]
      exact hmove.namesApart h.names
    · rw [hturn, List.length_set, h.length]
    · rw [hturn] at hr
      by_cases he : i = j
      · subst he
        cases (List.getElem?_set_self hi).symm.trans hr
        exact ⟨q, taken', hq, hphase, haccount.turn h hmove hstate⟩
      · rw [List.getElem?_set_ne he] at hr
        obtain ⟨q', taken'', hq', hphase', haccount'⟩ := h.phases j r hr
        refine ⟨q', taken'', hq', hphase', haccount'.concat h ?_ fun _ _ _ hj => absurd hj he⟩
        -- an id is one call's only, so the call whose turn it was did not put a role in under it
        intro _ hcreates' hthere
        rw [hstate] at hthere
        rcases hmove.comes h.names.toSound hthere with hold | ⟨-, hcreates, hid⟩
        · exact hold
        · exact absurd hid (hfresh.ne hq hq' he hcreates hcreates')

/-- What every turn keeps is kept later on. -/
theorem later_induction {P : List Nat → Prop} (h : P order)
    (hturn : ∀ order i, P order → P (order ++ [i])) (later : List Nat) : P (order ++ later) := by
  induction later using List.reverseRecOn with
  | nil =>
    rw [List.append_nil]
    exact h
  | append_singleton later i ih =>
    rw [← List.append_assoc]
    exact hturn _ i ih

/-- Whatever the order of the turns, they keep account of everything. -/
theorem orderly (hs : b.start.NamesApart) (hfresh : b.FreshIds) (order : List Nat) :
    b.Orderly order :=
  later_induction (orderly_nil hs hfresh) (fun _ i h => h.turn hfresh i) order

/-! ## What comes of it later -/

/-- A role that is gone is gone for good. -/
theorem gone_append (hs : b.start.NamesApart) (hfresh : b.FreshIds) (hgone : b.Gone order id)
    (later : List Nat) : b.Gone (order ++ later) id :=
  later_induction hgone (fun order i h => (orderly hs hfresh order).gone i h) later

/-- A system role stays as it is in the next turn. -/
theorem Orderly.kept (h : b.Orderly order) (i : Nat) (hkept : Kept id r (b.state order).vacant) :
    Kept id r (b.state (order ++ [i])).vacant := by
  rcases h.move i with hsame | ⟨q, taken, taken', s', r', hq, -, haccount, hmove, -, hturn⟩
  · rw [state, hsame]
    exact hkept
  · rw [state, hturn]
    refine hmove.kept hkept fun htaken hcreates => ?_
    -- a new role gets an id under which nothing is stored yet
    rintro rfl
    have hgone := haccount.unborn htaken hcreates order (List.prefix_refl order)
    rw [SortedMap.contains, show (b.state order).roles.find? _ = _ from hkept.stored] at hgone
    cases hgone

/-- A system role that is there at some moment is there ever after. -/
theorem kept_append (hs : b.start.NamesApart) (hfresh : b.FreshIds)
    (hkept : Kept id r (b.state order).vacant) (later : List Nat) :
    Kept id r (b.state (order ++ later)).vacant :=
  later_induction hkept (fun order i h => (orderly hs hfresh order).kept i h) later

/-- What a call that may put in, change or take out a role has done so far, and how it answers. -/
theorem Orderly.account (h : b.Orderly order) (hq : b.calls[i]? = some q)
    (halters : q.call.altersRoles = true) :
    ∃ taken, b.Account order i q taken ∧
      ∀ result, b.Answered order i result → (taken = true ↔ result = .ok ()) := by
  have hi : i < (b.after order).routines.length := by
    rw [h.length]
    exact (List.getElem?_eq_some_iff.mp hq).1
  obtain ⟨q', taken, hq', hphase, haccount⟩ := h.phases i _ (List.getElem?_eq_getElem hi)
  cases hq.symm.trans hq'
  refine ⟨taken, haccount, fun result hresult => ?_⟩
  rw [Answered, List.getElem?_eq_getElem hi] at hresult
  rw [Option.some.inj hresult] at hphase
  cases hphase with
  | done answer => exact answer halters

end ConcurrentCalls

/-- **A role that is gone does not come back.** Calls are made of a store that any invocations have
left, and take their steps in any order; what each creates gets an id of its own that nobody has
used. At every moment the names of two stored roles differ by more than the case of letters. A role
that was stored and is no longer so is not stored at any later time, and a deletion that has
succeeded has taken its role away. A system role stays as it is. An update has put the edited role
in while the role was stored, and done nothing else, and then it does not fail; or it has done
nothing at all, and then it fails. And whatever has happened, the calls can all get done. -/
theorem no_role_revived (history : List Invocation) (calls : List Sent) (order : List Nat)
    (hfresh : ConcurrentCalls.FreshIds ⟨empty.undergo history, calls⟩) :
    let b : ConcurrentCalls := ⟨empty.undergo history, calls⟩
    let t := b.state order
    (∀ (id id' : RoleId) (r r' : Role), t.roles.find? id = some r → t.roles.find? id' = some r' →
      id ≠ id' → Text.sameLetters r.name.text r'.name.text = false) ∧
    (∀ before between, before <+: between → between <+: order → ∀ id : RoleId,
      (b.state before).roles.contains id = true → (b.state between).roles.contains id = false →
      t.roles.contains id = false) ∧
    (∀ (i : Nat) (m : Moment) (id : RoleId), calls[i]? = some ⟨m, .deleteRole id⟩ →
      b.Answered order i (.ok ()) → t.roles.contains id = false) ∧
    (∀ before, before <+: order → ∀ (id : RoleId) (r : Role),
      (b.state before).roles.find? id = some r → r.isSystem = true →
      t.roles.find? id = some r) ∧
    (∀ (i : Nat) (m : Moment) (id : RoleId) (e : RoleEdit),
      calls[i]? = some ⟨m, .updateRole id e⟩ →
      (b.Rewrote order i m id e ∧ ∀ result, b.Answered order i result → result = .ok ()) ∨
      (b.Idle order i ∧ ∀ result, b.Answered order i result → ∃ fault, result = .error fault)) ∧
    ∃ later, (b.after (order ++ later)).Ended := by
  intro b t
  have hs : b.start.NamesApart := namesApart_undergo history
  have horderly : b.Orderly order := ConcurrentCalls.orderly hs hfresh order
  refine ⟨?_, ?_, ?_, ?_, ?_, ?_⟩
  · intro id id' r r' hr hr' hne
    refine Bool.eq_false_iff.mpr fun hsame => hne ?_
    exact horderly.names.apart hr hr' ((Text.sameLetters_iff _ _).mp hsame)
  · rintro before _ ⟨meanwhile, rfl⟩ ⟨later, rfl⟩ id hthere hgone
    have hborn : ¬ b.Unborn (before ++ meanwhile) id := by
      intro hunborn
      rw [hunborn before (List.prefix_append before meanwhile)] at hthere
      cases hthere
    exact (ConcurrentCalls.gone_append hs hfresh ⟨hborn, hgone⟩ later).2
  · intro i m id hq hanswered
    obtain ⟨taken, haccount, hanswers⟩ := horderly.account hq rfl
    exact (haccount.removed id rfl ((hanswers _ hanswered).mpr rfl)).2
  · rintro before ⟨later, rfl⟩ id r hr hsystem
    have hsound : (b.state before).vacant.Sound :=
      (ConcurrentCalls.orderly hs hfresh before).names.toSound
    exact (ConcurrentCalls.kept_append hs hfresh ⟨hsound, hr, hsystem⟩ later).stored
  · intro i m id e hq
    obtain ⟨taken, haccount, hanswers⟩ := horderly.account hq rfl
    cases taken with
    | true =>
      exact .inl ⟨haccount.rewrote id e rfl rfl, fun result h => (hanswers result h).mp rfl⟩
    | false =>
      refine .inr ⟨haccount.idle id e rfl rfl, fun result h => ?_⟩
      cases result with
      | ok u => cases (hanswers _ h).mpr rfl
      | error fault => exact ⟨fault, rfl⟩
  · obtain ⟨later, hlater⟩ := (b.after order).exists_ended
    exact ⟨later, by rwa [ConcurrentCalls.after, Traffic.run_append]⟩

/-- A role is updated and deleted at the same time, and another created under its name. -/
def race : ConcurrentCalls :=
  ⟨empty.undergo [.act (.insertRole (editors false 0))],
    [⟨someMoment, .updateRole editorsId { displayName := some "Writers" }⟩,
      ⟨someMoment, .deleteRole editorsId⟩,
      ⟨someMoment, .createRole { name := " editors " }⟩]⟩

/-- The update has looked up permissions when the role goes, and then finds none to write to. The
name is free again, for a role with another id. -/
theorem no_role_revived_race :
    let t := race.state [0, 2, 1, 1, 0, 2]
    race.FreshIds ∧
    (race.after [0, 2, 1, 1, 0, 2]).Ended ∧
    t.roles.contains editorsId = false ∧
    t.roles.contains someMoment.fresh = true ∧
    race.Idle [0, 2, 1, 1, 0, 2] 0 := by
  have hfresh : race.FreshIds := ⟨by decide, by decide⟩
  have hanswers : (race.after [0, 2, 1, 1, 0, 2]).routines
      = [.done (.error (.noRole editorsId)), .done (.ok ()), .done (.ok ())] := rfl
  obtain ⟨-, -, hremoved, -, hupdate, -⟩ :=
    no_role_revived [.act (.insertRole (editors false 0))] race.calls [0, 2, 1, 1, 0, 2] hfresh
  refine ⟨hfresh, ?_, hremoved 1 someMoment editorsId rfl rfl, rfl, ?_⟩
  · intro r hr
    rw [hanswers] at hr
    simp only [List.mem_cons, List.not_mem_nil, or_false] at hr
    rcases hr with rfl | rfl | rfl <;> exact ⟨_, rfl⟩
  · rcases hupdate 0 someMoment editorsId _ rfl with ⟨-, hsuccess⟩ | ⟨hidle, -⟩
    · cases hsuccess (.error (.noRole editorsId)) rfl
    · exact hidle

end Rolebook.Store
