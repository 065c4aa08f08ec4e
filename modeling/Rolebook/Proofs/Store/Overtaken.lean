import Mathlib.Data.List.Induction
import Rolebook.Proofs.Store.Traffic
import Rolebook.Proofs.Store.Writes

/-!
# Roles deleted in between

A call that gives a role away looks for the role in its first step and adds the assignment in its
last. A deletion whose steps fall in between takes the role away and its assignments along with it,
and the call then adds its assignment all the same: of a role that is not there
(`assignment_outlives_role`). Such an assignment does not show, but it is kept, and it gives the
role to the user again should the role ever be put back.

Nothing else leaves an assignment without its role. `Accounted` is what every turn keeps: of the
roles that a call under way has found, each is still stored or was taken away by a deletion
meanwhile (`Overtaken`), and of each assignment the role is stored, or is being deleted at the
moment, or the assignment is one that a call so overtaken was made for. Once all calls are done no
deletion is half way through, and only the first and the last are left (`orphans_overtaken`).
-/

namespace Rolebook.Store

/-! ## Requests at the same time -/

/-- Requests made of a store at the same time. -/
structure ConcurrentRequests where
  moment : Moment
  start : Store
  requests : List Request

namespace ConcurrentRequests

/-- Where the store and the calls stand after turns in some order. -/
def after (b : ConcurrentRequests) (order : List Nat) : Traffic Store Reply :=
  Traffic.run ⟨b.start, b.requests.map (Request.routine b.moment)⟩ order

/-- A deletion has taken a role away while the call at a place had begun and was not done. -/
def Overtaken (b : ConcurrentRequests) (order : List Nat) (i : Nat) (id : RoleId) : Prop :=
  ∃ before deletion later, order = before ++ deletion :: later ∧
    b.requests[deletion]? = some (.delete id) ∧
    i ∈ before ∧
    (∃ update next, (b.after before).routines[i]? = some (.step update next)) ∧
    (b.after before).state.roles.contains id = true ∧
    (b.after (before ++ [deletion])).state.roles.contains id = false

/-- Some call was made for an assignment and overtaken by a deletion of its role. -/
def Belated (b : ConcurrentRequests) (order : List Nat) (a : Assignment) : Prop :=
  ∃ i q, b.requests[i]? = some q ∧ q.Gives a ∧ b.Overtaken order i a.role

variable {b : ConcurrentRequests} {order : List Nat}

theorem after_concat (b : ConcurrentRequests) (order : List Nat) (i : Nat) :
    b.after (order ++ [i]) = (b.after order).turn i := Traffic.run_concat _ order i

/-- What has been overtaken stays so. -/
theorem Overtaken.concat {i : Nat} {id : RoleId} (h : b.Overtaken order i id) (j : Nat) :
    b.Overtaken (order ++ [j]) i id := by
  obtain ⟨before, deletion, later, rfl, rest⟩ := h
  exact ⟨before, deletion, later ++ [j], by simp, rest⟩

/-- An assignment that came too late stays so. -/
theorem Belated.concat {a : Assignment} (h : b.Belated order a) (j : Nat) :
    b.Belated (order ++ [j]) a := by
  obtain ⟨i, q, hq, hgives, hover⟩ := h
  exact ⟨i, q, hq, hgives, hover.concat j⟩

/-! ## What every turn keeps -/

/-- The call at a place has found no roles but those of which it took a step while they were stored,
and they are stored still unless the call is done or overtaken. -/
def Grounded (b : ConcurrentRequests) (order : List Nat) (i : Nat) (r : Routine Store Reply)
    (found : RoleId → Prop) : Prop :=
  ∀ id, found id → i ∈ order ∧
    ((b.after order).state.roles.contains id = true ∨ (∃ reply, r = .done reply) ∨
      b.Overtaken order i id)

/-- Where the calls and the assignments stand in the middle of it all. -/
structure Accounted (b : ConcurrentRequests) (order : List Nat) : Prop where
  users : (b.after order).state.users = b.start.users
  stages : ∀ (i : Nat) (r : Routine Store Reply), (b.after order).routines[i]? = some r →
    ∃ q found, b.requests[i]? = some q ∧ Stage q found r ∧ b.Grounded order i r found
  assignments : ∀ a ∈ (b.after order).state.assignments,
    (b.after order).state.roles.contains a.role = true ∨
    (∃ j : Nat, (b.after order).routines[j]? = some (dropping a.role)) ∨
    b.Belated order a

/-- Before the first turn, every assignment has its role. -/
theorem accounted_nil (hs : b.start.Intact) : b.Accounted [] where
  users := rfl
  stages i r hr := by
    have hr : (b.requests.map (Request.routine b.moment))[i]? = some r := hr
    rw [List.getElem?_map] at hr
    obtain ⟨q, hq, rfl⟩ := Option.map_eq_some_iff.mp hr
    exact ⟨q, fun _ => False, hq, stage_routine b.moment q _, nofun⟩
  assignments a ha := .inl (hs.roleStored ha)

/-- Half a deletion stays half done until its own turn comes, and then none of the role's
assignments is left. -/
theorem dropping_turn {t : Traffic Store Reply} {i j : Nat} {a : Assignment}
    (hj : t.routines[j]? = some (dropping a.role)) (ha : a ∈ (t.turn i).state.assignments) :
    (t.turn i).routines[j]? = some (dropping a.role) := by
  rcases t.turn_cases i with hsame | ⟨update, next, hi⟩
  · rw [hsame, hj]
  · rw [Traffic.turn_step hi] at ha ⊢
    by_cases he : i = j
    · -- its own turn: the assignment would be dropped with the others
      subst he
      cases hi.symm.trans hj
      exact absurd rfl (mem_dropAssignments.mp ha).2
    · rw [List.getElem?_set_ne he, hj]

variable {i : Nat}

/-- What a turn does, by where the call stands whose turn it is. -/
theorem Accounted.move (h : b.Accounted order) (i : Nat) :
    b.after (order ++ [i]) = b.after order ∨
    ∃ q found s' r', b.requests[i]? = some q ∧ i < (b.after order).routines.length ∧
      (∀ id, found id → (b.after order).state.roles.contains id = true ∨ b.Overtaken order i id) ∧
      Move q found (b.after order).state s' r' ∧
      b.after (order ++ [i]) = ⟨s', (b.after order).routines.set i r'⟩ := by
  rw [after_concat]
  rcases (b.after order).turn_cases i with hsame | ⟨update, next, hi⟩
  · exact .inl hsame
  · obtain ⟨q, found, hq, hstage, hgrounded⟩ := h.stages i _ hi
    refine .inr ⟨q, found, _, _, hq, (List.getElem?_eq_some_iff.mp hi).1, fun id hid => ?_,
      hstage.step _, Traffic.turn_step hi⟩
    rcases (hgrounded id hid).2 with hstored | ⟨reply, hdone⟩ | hover
    · exact .inl hstored
    · cases hdone
    · exact .inr hover

/-- A role goes only by the first half of its deletion. -/
theorem Accounted.lost (h : b.Accounted order) (i : Nat) {id : RoleId}
    (hid : (b.after order).state.roles.contains id = true) :
    (b.after (order ++ [i])).state.roles.contains id = true ∨
    (b.requests[i]? = some (.delete id) ∧
      (b.after (order ++ [i])).routines[i]? = some (dropping id)) := by
  rcases h.move i with hsame | ⟨q, found, s', r', hq, hi, -, hmove, hturn⟩
  · rw [hsame]
    exact .inl hid
  · rw [hturn]
    cases hmove with
    | stay roles _ _ _ => exact .inl (by rw [roles, hid])
    | drop asked =>
      rename_i gone
      by_cases he : gone = id
      · subst he
        exact .inr ⟨asked ▸ hq, List.getElem?_set_self hi⟩
      · refine .inl ?_
        show ((((b.after order).state.roles.erase gone).find? id).isSome) = true
        rw [SortedMap.find?_erase, if_neg (Ranked.rank_ne he)]
        exact hid

/-- What the others have found is accounted for after a turn as before. -/
theorem Grounded.concat {j : Nat} {r : Routine Store Reply} {found : RoleId → Prop}
    (hg : b.Grounded order j r found) (h : b.Accounted order) (i : Nat)
    (hr : (b.after order).routines[j]? = some r) : b.Grounded (order ++ [i]) j r found := by
  intro id hid
  obtain ⟨hj, hstored | hdone | hover⟩ := hg id hid
  · refine ⟨List.mem_append_left _ hj, ?_⟩
    cases hgone : (b.after (order ++ [i])).state.roles.contains id with
    | true => exact .inl rfl
    | false =>
      rcases h.lost i hstored with hkept | ⟨hdelete, -⟩
      · rw [hkept] at hgone
        cases hgone
      · cases r with
        | done reply => exact .inr (.inl ⟨reply, rfl⟩)
        | step update next =>
          -- this very turn took the role away, and the call is overtaken by it
          exact .inr (.inr ⟨order, i, [], rfl, hdelete, hj, ⟨update, next, hr⟩, hstored, hgone⟩)
  · exact ⟨List.mem_append_left _ hj, .inr (.inl hdone)⟩
  · exact ⟨List.mem_append_left _ hj, .inr (.inr (hover.concat i))⟩

/-- Assignments that are there before a turn are accounted for afterwards. -/
theorem Accounted.assignment (h : b.Accounted order) (i : Nat) {a : Assignment}
    (ha : a ∈ (b.after order).state.assignments)
    (ha' : a ∈ (b.after (order ++ [i])).state.assignments) :
    (b.after (order ++ [i])).state.roles.contains a.role = true ∨
    (∃ j : Nat, (b.after (order ++ [i])).routines[j]? = some (dropping a.role)) ∨
    b.Belated (order ++ [i]) a := by
  rcases h.assignments a ha with hstored | ⟨j, hj⟩ | hbelated
  · exact (h.lost i hstored).imp_right fun hgone => .inl ⟨i, hgone.2⟩
  · rw [after_concat] at ha' ⊢
    exact .inr (.inl ⟨j, dropping_turn hj ha'⟩)
  · exact .inr (.inr (hbelated.concat i))

/-- The call whose turn it was has found the roles that were stored at the time. -/
theorem Move.grounded {i : Nat} {q : Request} {found : RoleId → Prop}
    {s' : Store} {r' : Routine Store Reply} (hmove : Move q found (b.after order).state s' r')
    (hfound : ∀ id, found id →
      (b.after order).state.roles.contains id = true ∨ b.Overtaken order i id)
    (hturn : (b.after (order ++ [i])).state = s') :
    ∃ found', Stage q found' r' ∧ b.Grounded (order ++ [i]) i r' found' := by
  have hi : i ∈ order ++ [i] := List.mem_append_right _ (List.mem_singleton_self i)
  cases hmove with
  | stay roles _ _ rest =>
    refine ⟨_, rest, fun id hid => ⟨hi, ?_⟩⟩
    rw [hturn, roles]
    rcases hid with hid | hstored
    · exact (hfound id hid).imp_right fun hover => .inr (hover.concat i)
    · exact .inl hstored
  | drop asked => exact ⟨fun _ => False, .giving (gives_dropping _), nofun⟩

/-- A turn keeps account of everything. -/
theorem Accounted.turn (h : b.Accounted order) (i : Nat) : b.Accounted (order ++ [i]) := by
  rcases h.move i with hsame | ⟨q, found, s', r', hq, hi, hfound, hmove, hturn⟩
  · -- a call that is done was given a turn
    refine ⟨hsame ▸ h.users, fun j r hr => ?_, fun a ha => h.assignment i (hsame ▸ ha) ha⟩
    rw [hsame] at hr
    obtain ⟨q, found, hq, hstage, hgrounded⟩ := h.stages j r hr
    exact ⟨q, found, hq, hstage, hgrounded.concat h i hr⟩
  · have hstate : (b.after (order ++ [i])).state = s' := by rw [hturn]
    refine ⟨?_, fun j r hr => ?_, fun a ha => ?_⟩
    · rw [hstate, ← h.users]
      cases hmove with
      | stay _ users _ _ => exact users
      | drop asked => rfl
    · rw [hturn] at hr
      by_cases he : i = j
      · subst he
        cases (List.getElem?_set_self hi).symm.trans hr
        obtain ⟨found', hstage, hgrounded⟩ := Move.grounded hmove hfound hstate
        exact ⟨q, found', hq, hstage, hgrounded⟩
      · rw [List.getElem?_set_ne he] at hr
        obtain ⟨q, found, hq, hstage, hgrounded⟩ := h.stages j r hr
        exact ⟨q, found, hq, hstage, hgrounded.concat h i hr⟩
    · have ha' : a ∈ s'.assignments := hstate ▸ ha
      cases hmove with
      | drop asked => exact h.assignment i ha' ha
      | stay roles _ added _ =>
        rcases added a ha' with hold | ⟨hgives, hid⟩
        · exact h.assignment i hold ha
        · -- an assignment that is new: the call has found its role, some time ago
          rcases hfound _ hid with hstored | hover
          · exact .inl (by rw [hstate, roles, hstored])
          · exact .inr (.inr ⟨i, q, hq, hgives, hover.concat i⟩)

/-- Whatever the order of the turns, everything is accounted for. -/
theorem accounted (hs : b.start.Intact) (order : List Nat) : b.Accounted order := by
  induction order using List.reverseRecOn with
  | nil => exact accounted_nil hs
  | append_singleton order i ih => exact ih.turn i

/-- Once all calls are done, an assignment whose role is not stored came too late. -/
theorem belated_of_ended (hs : b.start.Intact) (hended : (b.after order).Ended) {a : Assignment}
    (ha : a ∈ (b.after order).state.assignments)
    (hgone : (b.after order).state.roles.contains a.role = false) : b.Belated order a := by
  rcases (accounted hs order).assignments a ha with hstored | ⟨j, hj⟩ | hbelated
  · rw [hstored] at hgone
    cases hgone
  · -- half a deletion is not the end
    obtain ⟨reply, hreply⟩ := hended _ (List.mem_of_getElem? hj)
    cases hreply
  · exact hbelated

/-- Who shows as a member of a role holds an assignment of it: nobody changes users meanwhile. -/
theorem mem_assignments_of_member (hs : b.start.Intact) {u : User} {id : RoleId}
    (hu : u ∈ (b.after order).state.members id) :
    (⟨u.id, id⟩ : Assignment) ∈ (b.after order).state.assignments := by
  obtain ⟨a, ha, hfind⟩ := List.mem_filterMap.mp hu
  obtain ⟨ha, hid⟩ := SortedSet.mem_filter.mp ha
  rw [(accounted hs order).users] at hfind
  rw [hs.userKeyed hfind, ← of_decide_eq_true hid]
  exact ha

end ConcurrentRequests

/-- **No assignment outlives its role, unless the role went while the assignment was on its way.**
Calls that change, delete or save are made of a store that any invocations have left, and take turns
in any order, the operations of a save being calls of their own. Once all are done, every assignment
is of a stored role, or else of one that a deletion took away while a call made for that very
assignment had begun and was not done. So a role that is put in where there is none has no members
but those whose assignments came too late. And whatever has happened, the calls can all get done. -/
theorem orphans_overtaken (m : Moment) (history : List Invocation) (requests : List Request)
    (order : List Nat) :
    let b : ConcurrentRequests := ⟨m, empty.undergo history, requests⟩
    let t := (b.after order).state
    ((b.after order).Ended →
      (∀ a ∈ t.assignments, t.roles.contains a.role = true ∨ b.Belated order a) ∧
      ∀ (r : Role) (t' : Store), t.roles.contains r.id = false → t.insertRole r = .ok t' →
        ∀ u ∈ t'.members r.id, b.Belated order ⟨u.id, r.id⟩) ∧
    ∃ later, (b.after (order ++ later)).Ended := by
  intro b t
  have hs : b.start.Intact := intact_undergo history
  refine ⟨fun hended => ⟨fun a ha => ?_, fun r t' hr ht' u hu => ?_⟩, ?_⟩
  · cases hstored : t.roles.contains a.role with
    | true => exact .inl rfl
    | false => exact .inr (ConcurrentRequests.belated_of_ended hs hended ha hstored)
  · cases eq_putRole_of_insertRole ht'
    -- who is a member now was one before, of a role that was not there
    have hu : u ∈ (b.after order).state.members r.id := hu
    exact ConcurrentRequests.belated_of_ended hs hended
      (ConcurrentRequests.mem_assignments_of_member hs hu) hr
  · obtain ⟨later, hlater⟩ := (b.after order).exists_ended
    exact ⟨later, by rwa [ConcurrentRequests.after, Traffic.run_append]⟩

/-- The role is deleted between the first and the second step of the call that gives it to Ada. -/
def narrowly : ConcurrentRequests :=
  ⟨someMoment, empty.undergo [.act (.insertRole (editors false 0)), .act (.insertUser ada)],
    [.change editorsId (.assign ada.id), .delete editorsId]⟩

theorem orphans_overtaken_narrowly :
    (narrowly.after [0, 1, 1, 0, 0, 0]).Ended ∧
    narrowly.Belated [0, 1, 1, 0, 0, 0] ⟨ada.id, editorsId⟩ := by
  have hended : (narrowly.after [0, 1, 1, 0, 0, 0]).Ended := by
    have hdone : (narrowly.after [0, 1, 1, 0, 0, 0]).routines
        = .replicate 2 (.done (.called (.ok ()))) := rfl
    intro r hr
    rw [hdone] at hr
    exact ⟨_, List.eq_of_mem_replicate hr⟩
  refine ⟨hended, ?_⟩
  obtain ⟨hassigned, -⟩ := (orphans_overtaken someMoment _ narrowly.requests _).1 hended
  rcases hassigned ⟨ada.id, editorsId⟩ (by decide) with hstored | hbelated
  · cases hstored
  · exact hbelated

/-- An assignment can outlive its role: both calls succeed, and a role put in later under the same
id has a member from the start. -/
theorem assignment_outlives_role :
    let t := narrowly.after [0, 1, 1, 0, 0, 0]
    t.routines = [.done (.called (.ok ())), .done (.called (.ok ()))] ∧
    t.state.roles.contains editorsId = false ∧
    (⟨ada.id, editorsId⟩ : Assignment) ∈ t.state.assignments ∧
    ∃ t', t.state.insertRole (editors false 0) = .ok t' ∧ t'.members editorsId = [ada] :=
  ⟨rfl, rfl, by decide, _, rfl, rfl⟩

end Rolebook.Store
