import Rolebook.Proofs.Administrator.Listings
import Rolebook.Proofs.Store.Save

/-!
# Listings of a store

What a store lists depends on what was registered last under each id, and not on the way there
(`find?_after`): a store keeps its entries by id, so neither the order of registrations nor what
they replaced shows, not even among entries that are listed as equals. The members of a role depend
on the users and on which assignments were awarded besides, as long as none is taken back
(`mem_assignments_after`). Whether an assignment is awarded does not depend on others, so the same
calls after the same registrations are awarded in any order (`awarded_assigns_iff`).
-/

namespace Rolebook.Store

variable {s t : Store} {a : Act} {acts acts' : List Act} {m : Moment} {x : Assignment}

theorem after_append (s : Store) (acts acts' : List Act) :
    s.after (acts ++ acts') = (s.after acts).after acts' := List.foldl_append

/-! ## What is registered last -/

/-- The user that an act registers under an id. -/
def Act.user? (id : UserId) : Act → Option User
  | .insertUser u => if u.id = id then some u else none
  | _ => none

/-- The permission that an act registers under an id. -/
def Act.permission? (id : PermissionId) : Act → Option Permission
  | .insertPermission p => if p.id = id then some p else none
  | _ => none

/-- What the last of the acts in which `f` finds something has. -/
def last? {α : Type} (f : Act → Option α) : List Act → Option α
  | [] => none
  | a :: acts => (last? f acts).or (f a)

/-- What is found after an insertion is what was put in, or else what was found before. -/
theorem find?_insert_or {κ α : Type} [Ranked κ] [DecidableEq κ] (entries : SortedMap κ α)
    (k k' : κ) (a : α) :
    (entries.insert k a).find? k' = (if k = k' then some a else none).or (entries.find? k') := by
  rw [SortedMap.find?_insert, if_congr Ranked.rank_eq_iff rfl rfl]
  split <;> rfl

/-- A user is found as registered last, or else as before. -/
theorem find?_users_apply (a : Act) (s : Store) (id : UserId) :
    (a.apply s).users.find? id = (a.user? id).or (s.users.find? id) := by
  have hstep := step_apply s a
  generalize a.apply s = s' at hstep
  cases hstep with
  | insertUser u => exact find?_insert_or s.users u.id id u
  | insertPermission | insertRole | nameTaken | failFor | clearFailures => rfl
  | call effect =>
    cases effect with
    | nothing | create | update | delete => rfl
    | change => rw [users_applyChange]; rfl

/-- A permission is found as registered last, or else as before. -/
theorem find?_permissions_apply (a : Act) (s : Store) (id : PermissionId) :
    (a.apply s).permissions.find? id = (a.permission? id).or (s.permissions.find? id) := by
  have hstep := step_apply s a
  generalize a.apply s = s' at hstep
  cases hstep with
  | insertPermission p => exact find?_insert_or s.permissions p.id id p
  | insertUser | insertRole | nameTaken | failFor | clearFailures => rfl
  | call effect =>
    cases effect with
    | nothing | create | update | delete => rfl
    | change => rw [permissions_applyChange]; rfl

/-- If an act puts under a key what `f` finds in it, a run leaves what it finds last. -/
theorem find?_after {κ α : Type} [Ranked κ] {entries : Store → SortedMap κ α}
    {f : κ → Act → Option α} (k : κ)
    (happly : ∀ (a : Act) (s : Store),
      (entries (a.apply s)).find? k = (f k a).or ((entries s).find? k))
    (acts : List Act) (s : Store) :
    (entries (s.after acts)).find? k = (last? (f k) acts).or ((entries s).find? k) := by
  induction acts generalizing s with
  | nil => rfl
  | cons a acts ih =>
    show (entries ((a.apply s).after acts)).find? k = _
    rw [ih, happly, last?, Option.or_assoc]

/-- Two runs in which the same is found last under each key leave the same entries. -/
theorem after_eq_of_last? {κ α : Type} [Ranked κ] {entries : Store → SortedMap κ α}
    {f : κ → Act → Option α}
    (happly : ∀ (k : κ) (a : Act) (s : Store),
      (entries (a.apply s)).find? k = (f k a).or ((entries s).find? k))
    (h : ∀ k, last? (f k) acts = last? (f k) acts') (s : Store) :
    entries (s.after acts) = entries (s.after acts') := by
  refine SortedMap.ext_find? fun k => ?_
  rw [find?_after k (happly k), h, find?_after k (happly k)]

/-- Two runs register the same in the end. -/
structure SameRegistrations (acts acts' : List Act) : Prop where
  users : ∀ id, last? (Act.user? id) acts = last? (Act.user? id) acts'
  permissions : ∀ id, last? (Act.permission? id) acts = last? (Act.permission? id) acts'

/-- Runs with the same last registrations lead to the same users. -/
theorem SameRegistrations.users_after (h : SameRegistrations acts acts') (s : Store) :
    (s.after acts).users = (s.after acts').users :=
  after_eq_of_last? (fun id a s => find?_users_apply a s id) h.users s

/-- Runs with the same last registrations lead to the same permissions. -/
theorem SameRegistrations.permissions_after (h : SameRegistrations acts acts') (s : Store) :
    (s.after acts).permissions = (s.after acts').permissions :=
  after_eq_of_last? (fun id a s => find?_permissions_apply a s id) h.permissions s

/-! ## What is awarded -/

/-- The call that gives a user a role. -/
def Act.assign (m : Moment) (x : Assignment) : Act := .call m (.change x.role (.assign x.user))

/-- A run has a call in it that gives a user a role and is answered with success. -/
inductive Awarded (x : Assignment) : Store → List Act → Prop where
  | here {s : Store} {m : Moment} {acts : List Act}
      (h : (((gateway m.fresh m.now).change x.role (.assign x.user)).run.run s).1 = .ok ()) :
      Awarded x s (.assign m x :: acts)
  | later {s : Store} {a : Act} {acts : List Act} (h : Awarded x (a.apply s) acts) :
      Awarded x s (a :: acts)

/-- An act that takes no role from a user. -/
def Act.Keeps : Act → Prop
  | .call _ (.deleteRole _) => False
  | .call _ (.change _ (.unassign _)) => False
  | _ => True

theorem change_ok_iff :
    (((gateway m.fresh m.now).change x.role (.assign x.user)).run.run s).1 = .ok () ↔
      s.refusal? x.role (.assign x.user) = none := by
  show (exec (change x.role (.assign x.user)) s).1 = .ok () ↔ _
  rw [exec_change]
  cases s.refusal? x.role (.assign x.user) with
  | none => exact ⟨fun _ => rfl, fun _ => rfl⟩
  | some fault => exact ⟨nofun, nofun⟩

/-- An assignment that is not refused is added, and nothing else is done. -/
theorem apply_assign (m : Moment) (x : Assignment) (s : Store) :
    (Act.assign m x).apply s =
      if s.refusal? x.role (.assign x.user) = none then s.applyChange x.role (.assign x.user)
      else s := by
  show (exec (change x.role (.assign x.user)) s).2 = _
  rw [exec_change]
  cases s.refusal? x.role (.assign x.user) <;> rfl

/-- A role is awarded by the first act of a run or by one after it. -/
theorem awarded_cons_iff : Awarded x s (a :: acts) ↔
    (∃ m, a = .assign m x ∧ s.refusal? x.role (.assign x.user) = none) ∨
      Awarded x (a.apply s) acts := by
  constructor
  · intro h
    cases h with
    | here h => exact Or.inl ⟨_, rfl, change_ok_iff.mp h⟩
    | later h => exact Or.inr h
  · rintro (⟨m, rfl, h⟩ | h)
    · exact .here (change_ok_iff.mpr h)
    · exact .later h

/-- After an assignment there is one more, if it was not refused. -/
theorem mem_assignments_assign {y : Assignment} :
    y ∈ ((Act.assign m x).apply s).assignments ↔
      y ∈ s.assignments ∨ y = x ∧ s.refusal? x.role (.assign x.user) = none := by
  rw [apply_assign]
  split
  next h =>
    have hinsert : y ∈ (s.assignments.insert ⟨x.user, x.role⟩) ↔ y = x ∨ y ∈ s.assignments :=
      SortedSet.mem_insert
    rw [and_iff_left h, or_comm]
    exact hinsert
  next h => simp only [h, and_false, or_false]

/-- An act that takes no role from a user adds the assignment that it is awarded, and no other. -/
theorem mem_assignments_apply (h : a.Keeps) (y : Assignment) :
    y ∈ (a.apply s).assignments ↔
      y ∈ s.assignments ∨ ∃ m, a = .assign m y ∧ s.refusal? y.role (.assign y.user) = none := by
  by_cases hassign : ∃ m x, a = .assign m x
  · obtain ⟨m, x, rfl⟩ := hassign
    rw [mem_assignments_assign]
    refine or_congr_right ⟨?_, ?_⟩
    · rintro ⟨rfl, hnone⟩
      exact ⟨m, rfl, hnone⟩
    · rintro ⟨m', heq, hnone⟩
      cases x; cases y; cases heq
      exact ⟨rfl, hnone⟩
  · have hsame : (a.apply s).assignments = s.assignments := by
      have hstep := step_apply s a
      generalize a.apply s = s' at hstep
      cases hstep with
      | insertUser | insertPermission | insertRole | nameTaken | failFor | clearFailures => rfl
      | call effect =>
        cases effect with
        | nothing | create | update => rfl
        | delete => exact h.elim
        | @change id o =>
          cases o with
          | assign u => exact absurd ⟨_, ⟨u, id⟩, rfl⟩ hassign
          | unassign => exact h.elim
    rw [hsame]
    exact ⟨Or.inl, fun h => h.resolve_right fun ⟨m, heq, _⟩ => hassign ⟨m, y, heq⟩⟩

/-- A run that takes no role from a user adds the assignments that it is awarded. -/
theorem mem_assignments_after (h : ∀ a ∈ acts, a.Keeps) (y : Assignment) :
    y ∈ (s.after acts).assignments ↔ y ∈ s.assignments ∨ Awarded y s acts := by
  induction acts generalizing s with
  | nil => exact ⟨Or.inl, fun h => h.resolve_right nofun⟩
  | cons a acts ih =>
    show y ∈ ((a.apply s).after acts).assignments ↔ _
    rw [ih fun b hb => h b (List.mem_cons_of_mem _ hb),
      mem_assignments_apply (h a (List.mem_cons_self ..)), awarded_cons_iff, or_assoc]

/-- Two runs from a store take no role from a user, are awarded the same assignments, and come to
the same stored roles. -/
structure SameAwards (s : Store) (acts acts' : List Act) : Prop where
  keeps : ∀ a ∈ acts, a.Keeps
  keeps' : ∀ a ∈ acts', a.Keeps
  awarded : ∀ x, Awarded x s acts ↔ Awarded x s acts'
  stored : ∀ id, (s.after acts).roles.contains id = (s.after acts').roles.contains id

/-- Runs that award the same lead to the same assignments. -/
theorem SameAwards.assignments_after (h : SameAwards s acts acts') :
    (s.after acts).assignments = (s.after acts').assignments := by
  refine SortedSet.ext_mem fun x => ?_
  rw [mem_assignments_after h.keeps, mem_assignments_after h.keeps', h.awarded]

/-! ## The same calls in any order -/

/-- An act that puts in a user or a permission. -/
def Act.Registers : Act → Prop
  | .insertUser _ => True
  | .insertPermission _ => True
  | _ => False

/-- Registrations take no role from anybody. -/
theorem Act.Registers.keeps (h : a.Registers) : a.Keeps := by
  cases a with
  | insertUser | insertPermission => trivial
  | insertRole | failFor | clearFailures | call => exact h.elim

theorem Act.Registers.same (h : a.Registers) (s : Store) :
    (a.apply s).roles = s.roles ∧ (a.apply s).failing = s.failing := by
  cases a with
  | insertUser | insertPermission => exact ⟨rfl, rfl⟩
  | insertRole | failFor | clearFailures | call => exact h.elim

theorem roles_failing_after (h : ∀ a ∈ acts, a.Registers) (s : Store) :
    (s.after acts).roles = s.roles ∧ (s.after acts).failing = s.failing := by
  induction acts generalizing s with
  | nil => exact ⟨rfl, rfl⟩
  | cons a acts ih =>
    obtain ⟨hroles, hfailing⟩ := (h a (List.mem_cons_self ..)).same s
    obtain ⟨hroles', hfailing'⟩ := ih (fun b hb => h b (List.mem_cons_of_mem _ hb)) (a.apply s)
    exact ⟨hroles'.trans hroles, hfailing'.trans hfailing⟩

/-- Registrations are awarded nothing themselves. -/
theorem awarded_append_iff (h : ∀ a ∈ acts, a.Registers) :
    Awarded x s (acts ++ acts') ↔ Awarded x (s.after acts) acts' := by
  induction acts generalizing s with
  | nil => exact Iff.rfl
  | cons a acts ih =>
    have hnot : ¬ ∃ m, a = .assign m x ∧ s.refusal? x.role (.assign x.user) = none := by
      rintro ⟨m, rfl, -⟩
      exact h _ (List.mem_cons_self ..)
    rw [List.cons_append, awarded_cons_iff, or_iff_right hnot]
    exact ih fun b hb => h b (List.mem_cons_of_mem _ hb)

/-- Whether a membership call is refused depends on the roles, the users and whose calls fail. -/
theorem refusal?_congr (hroles : s.roles = t.roles) (husers : s.users = t.users)
    (hfailing : s.failing = t.failing) (id : RoleId) (o : Operation) :
    s.refusal? id o = t.refusal? id o := by
  have hfails : s.fails o = t.fails o := by
    unfold fails
    rw [husers, hfailing]
  have hfault : s.faultOf o = t.faultOf o := by rw [faultOf, faultOf, hfailing]
  rw [refusal?, refusal?, hroles, hfails, hfault]

/-- No assignment makes a difference to whether another is refused. -/
theorem refusal?_assign (m : Moment) (x : Assignment) (s : Store) (id : RoleId) (o : Operation) :
    ((Act.assign m x).apply s).refusal? id o = s.refusal? id o := by
  rw [apply_assign]
  split
  next =>
    exact refusal?_congr (roles_applyChange ..) (users_applyChange ..) (failing_applyChange ..) id o
  next => rfl

/-- Of calls that give users roles, those are awarded that are not refused at the start. -/
theorem awarded_assigns_iff {xs : List Assignment} :
    Awarded x s (xs.map (Act.assign m)) ↔
      x ∈ xs ∧ s.refusal? x.role (.assign x.user) = none := by
  induction xs generalizing s with
  | nil => exact ⟨nofun, fun h => nomatch h.1⟩
  | cons y xs ih =>
    have hfirst : (∃ m', Act.assign m y = .assign m' x ∧ s.refusal? x.role (.assign x.user) = none) ↔
        x = y ∧ s.refusal? x.role (.assign x.user) = none := by
      constructor
      · rintro ⟨m', heq, h⟩
        cases x; cases y; cases heq
        exact ⟨rfl, h⟩
      · rintro ⟨rfl, h⟩
        exact ⟨m, rfl, h⟩
    rw [List.map_cons, awarded_cons_iff, ih, refusal?_assign, hfirst, ← or_and_right, List.mem_cons]

theorem roles_assigns (xs : List Assignment) (s : Store) :
    (s.after (xs.map (Act.assign m))).roles = s.roles := by
  induction xs generalizing s with
  | nil => rfl
  | cons x xs ih =>
    show (((Act.assign m x).apply s).after (xs.map (Act.assign m))).roles = _
    rw [ih, apply_assign]
    split
    next => exact roles_applyChange ..
    next => rfl

theorem last?_append_assigns {α : Type} {f : Act → Option α} (hf : ∀ x, f (.assign m x) = none)
    (acts : List Act) (xs : List Assignment) :
    last? f (acts ++ xs.map (Act.assign m)) = last? f acts := by
  induction acts with
  | nil =>
    induction xs with
    | nil => rfl
    | cons x xs ih =>
      show (last? f (xs.map (Act.assign m))).or (f (.assign m x)) = none
      rw [hf, Option.or_none]
      exact ih
  | cons a acts ih => rw [List.cons_append, last?, ih, last?]

section Calls

variable {xs xs' : List Assignment}

theorem SameRegistrations.append_assigns (h : SameRegistrations acts acts') (m m' : Moment)
    (xs xs' : List Assignment) :
    SameRegistrations (acts ++ xs.map (Act.assign m)) (acts' ++ xs'.map (Act.assign m')) where
  users id := by
    rw [last?_append_assigns (fun _ => rfl), last?_append_assigns (fun _ => rfl), h.users]
  permissions id := by
    rw [last?_append_assigns (fun _ => rfl), last?_append_assigns (fun _ => rfl), h.permissions]

theorem keeps_append_assigns (h : ∀ a ∈ acts, a.Registers) :
    ∀ a ∈ acts ++ xs.map (Act.assign m), a.Keeps := by
  intro a ha
  rcases List.mem_append.mp ha with ha | ha
  · exact (h a ha).keeps
  · obtain ⟨x, -, rfl⟩ := List.mem_map.mp ha
    trivial

/-- The same calls after the same registrations are awarded alike, in whatever order. -/
theorem sameAwards_append_assigns (m m' : Moment) (h : SameRegistrations acts acts')
    (hacts : ∀ a ∈ acts, a.Registers) (hacts' : ∀ a ∈ acts', a.Registers)
    (hxs : ∀ x, x ∈ xs ↔ x ∈ xs') (s : Store) :
    SameAwards s (acts ++ xs.map (Act.assign m)) (acts' ++ xs'.map (Act.assign m')) where
  keeps := keeps_append_assigns hacts
  keeps' := keeps_append_assigns hacts'
  awarded x := by
    obtain ⟨hroles, hfailing⟩ := roles_failing_after hacts s
    obtain ⟨hroles', hfailing'⟩ := roles_failing_after hacts' s
    have hrefusal : (s.after acts).refusal? x.role (.assign x.user)
        = (s.after acts').refusal? x.role (.assign x.user) :=
      refusal?_congr (hroles.trans hroles'.symm) (h.users_after s) (hfailing.trans hfailing'.symm) ..
    rw [awarded_append_iff hacts, awarded_append_iff hacts', awarded_assigns_iff,
      awarded_assigns_iff, hxs, hrefusal]
  stored id := by
    rw [after_append, after_append, roles_assigns, roles_assigns, (roles_failing_after hacts s).1,
      (roles_failing_after hacts' s).1]

end Calls

/-! ## What is listed -/

/-- A call answers the same from two stores. -/
def SameAnswer {α : Type} (call : Attempt (StateM Store) α) (s t : Store) : Prop :=
  (call.run.run s).1 = (call.run.run t).1

/-- The list of users depends on the users. -/
theorem sameAnswer_listUsers (k : Moment) (limits : Limits) (h : s.users = t.users) :
    SameAnswer (administrator k limits).listUsers s t := by
  have hlist : ∀ s : Store, ((administrator k limits).listUsers.run.run s).1
      = .ok (s.users.values.mergeSort fun u v => Text.atMost u.username v.username) := fun _ => rfl
  rw [SameAnswer, hlist, hlist, h]

/-- The list of permissions depends on the permissions. -/
theorem sameAnswer_listPermissions (k : Moment) (limits : Limits)
    (h : s.permissions = t.permissions) :
    SameAnswer (administrator k limits).listPermissions s t := by
  have hlist : ∀ s : Store, ((administrator k limits).listPermissions.run.run s).1
      = .ok (s.permissions.values.mergeSort Administrator.permissionAtMost) := fun _ => rfl
  rw [SameAnswer, hlist, hlist, h]

/-- The members of a role depend on the users and the assignments, and on whether the role is
stored. -/
theorem sameAnswer_members (k : Moment) (limits : Limits) (husers : s.users = t.users)
    (hassignments : s.assignments = t.assignments) {role : RoleId}
    (hstored : s.roles.contains role = t.roles.contains role) :
    SameAnswer ((administrator k limits).members role) s t := by
  have hmembers : s.members role = t.members role := by rw [members, members, husers, hassignments]
  rw [SameAnswer, Administrator.members, Administrator.run_attempt_bind,
    Administrator.run_attempt_bind, run_listMembers, run_listMembers, hstored, hmembers]
  cases t.roles.contains role <;> rfl

/-- Listings are those of the gateway in an order of their own. On a store, two runs that register
the same in the end lead to the same lists of users and permissions, and to the same members of
every role, if the same assignments are awarded on the way or if the same are asked for afterwards.
-/
theorem listings_arranged_and_settled (k : Moment) (limits : Limits) (s : Store)
    (h : SameRegistrations acts acts') :
    (∀ {n : Type → Type} [Monad n] (a : Administrator n), a.SortsListings) ∧
    SameAnswer (administrator k limits).listUsers (s.after acts) (s.after acts') ∧
    SameAnswer (administrator k limits).listPermissions (s.after acts) (s.after acts') ∧
    (SameAwards s acts acts' → ∀ role,
      SameAnswer ((administrator k limits).members role) (s.after acts) (s.after acts')) ∧
    ((∀ a ∈ acts, a.Registers) → (∀ a ∈ acts', a.Registers) →
      ∀ (m m' : Moment) (xs xs' : List Assignment), (∀ x, x ∈ xs ↔ x ∈ xs') → ∀ role,
        SameAnswer ((administrator k limits).members role)
          (s.after (acts ++ xs.map (Act.assign m))) (s.after (acts' ++ xs'.map (Act.assign m')))) := by
  refine ⟨fun a => Administrator.sorts_listings a, sameAnswer_listUsers k limits (h.users_after s),
    sameAnswer_listPermissions k limits (h.permissions_after s), fun hawards role => ?_,
    fun hacts hacts' m m' xs xs' hxs role => ?_⟩
  · exact sameAnswer_members k limits (h.users_after s) hawards.assignments_after
      (hawards.stored role)
  · have hawards := sameAwards_append_assigns m m' h hacts hacts' hxs s
    exact sameAnswer_members k limits ((h.append_assigns m m' xs xs').users_after s)
      hawards.assignments_after (hawards.stored role)

/-- Another user with the same login name. -/
def otherAda : User := ⟨⟨⟨11, by decide⟩⟩, "ada", none, none⟩

/-- Two users, one of them under a wrong name at first. -/
def corrected : List Act :=
  [.insertUser { ada with username := "adda" }, .insertUser otherAda, .insertUser ada]

/-- The two users under their names. -/
def correct : List Act := [.insertUser ada, .insertUser otherAda]

/-- Both users are to get a role. -/
def bothAssigned : List Assignment := [⟨ada.id, editorsId⟩, ⟨otherAda.id, editorsId⟩]

/-- A user who was registered wrongly first is in the end registered as one who was registered once.
-/
theorem sameRegistrations_corrected : SameRegistrations corrected correct where
  users id := by
    have hne : otherAda.id ≠ ada.id := by decide
    simp only [corrected, correct, last?, Act.user?]
    by_cases hada : ada.id = id
    · have hother : otherAda.id ≠ id := hada ▸ hne
      simp [hada, hother]
    · simp [hada]
  permissions _ := rfl

theorem listings_arranged_and_settled_corrected :
    SameRegistrations corrected correct ∧
    SameAnswer (administrator someMoment {}).listUsers (empty.after corrected)
      (empty.after correct) ∧
    SameAnswer ((administrator someMoment {}).members editorsId)
      ((empty.putRole (editors false 0)).after
        (corrected ++ bothAssigned.map (Act.assign someMoment)))
      ((empty.putRole (editors false 0)).after
        (correct ++ bothAssigned.reverse.map (Act.assign someMoment))) := by
  have hcorrected : ∀ a ∈ corrected, a.Registers :=
    List.forall_mem_cons.mpr ⟨True.intro, List.forall_mem_cons.mpr ⟨True.intro,
      List.forall_mem_cons.mpr ⟨True.intro, List.forall_mem_nil _⟩⟩⟩
  have hcorrect : ∀ a ∈ correct, a.Registers :=
    List.forall_mem_cons.mpr ⟨True.intro, List.forall_mem_cons.mpr ⟨True.intro,
      List.forall_mem_nil _⟩⟩
  obtain ⟨-, husers, -⟩ :=
    listings_arranged_and_settled someMoment {} empty sameRegistrations_corrected
  obtain ⟨-, -, -, -, hmembers⟩ :=
    listings_arranged_and_settled someMoment {} (empty.putRole (editors false 0))
      sameRegistrations_corrected
  exact ⟨sameRegistrations_corrected, husers, hmembers hcorrected hcorrect someMoment someMoment
    bothAssigned bothAssigned.reverse (fun _ => List.mem_reverse.symm) editorsId⟩

end Rolebook.Store
