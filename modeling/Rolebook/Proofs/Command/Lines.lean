import Mathlib.Data.List.Nodup
import Rolebook.Command.Output
import Rolebook.Proofs.Membership.Report
import Rolebook.Proofs.Uuid.Spelling

/-!
# What can be read off the lines

The lines of a dry run and those of a save name operations, and each line names one. For an id is
written in a fixed number of characters, so an operation can be read off the start of a text that
goes on in any way (`Operation.toList_append_inj`); and lines of different kinds begin differently.

`planLine_mem_planLines`, `successLine_mem_append` and `exists_failedLine_mem_append` say that a
line of a kind is there just when its operation was planned, was done, or failed;
`count_successLine` and `countP_tellsFailure` say that it is there once.
-/

namespace Rolebook

variable {xs ys : List Char}

/-! ## Operations in a text -/

/-- Where the text of an id ends can be told, since all of them are of one length. -/
theorem Id.toList_append_inj {kind : IdKind} {u v : Id kind}
    (h : u.text.toList ++ xs = v.text.toList ++ ys) : u = v := by
  have hlength : u.text.toList.length = v.text.toList.length := by
    rw [text, text, Uuid.toList_text, Uuid.toList_text, Uuid.length_chars, Uuid.length_chars]
  exact text_inj (String.toList_inj.mp (List.append_inj_left h hlength))

theorem Operation.toList_assign_append (u : UserId) (xs : List Char) :
    (assign u).text.toList ++ xs = 'a' :: ("ssign ".toList ++ (u.text.toList ++ xs)) := by
  show ("assign" ++ " " ++ u.text).toList ++ xs = _
  rw [String.toList_append, List.append_assoc]
  rfl

theorem Operation.toList_unassign_append (u : UserId) (xs : List Char) :
    (unassign u).text.toList ++ xs = 'u' :: ("nassign ".toList ++ (u.text.toList ++ xs)) := by
  show ("unassign" ++ " " ++ u.text).toList ++ xs = _
  rw [String.toList_append, List.append_assoc]
  rfl

/-- The operation that a text begins with is told by the text. -/
theorem Operation.toList_append_inj {o o' : Operation}
    (h : o.text.toList ++ xs = o'.text.toList ++ ys) : o = o' := by
  cases o with
  | assign u =>
    rw [toList_assign_append] at h
    cases o' with
    | assign v =>
      rw [toList_assign_append] at h
      have hids := List.append_cancel_left (List.cons.inj h).2
      exact congrArg assign (Id.toList_append_inj hids)
    | unassign v =>
      rw [toList_unassign_append] at h
      exact absurd (List.cons.inj h).1 (by decide)
  | unassign u =>
    rw [toList_unassign_append] at h
    cases o' with
    | assign v =>
      rw [toList_assign_append] at h
      exact absurd (List.cons.inj h).1 (by decide)
    | unassign v =>
      rw [toList_unassign_append] at h
      have hids := List.append_cancel_left (List.cons.inj h).2
      exact congrArg unassign (Id.toList_append_inj hids)

/-- An operation can be told from its words. -/
theorem Operation.text_inj {o o' : Operation} (h : o.text = o'.text) : o = o' := by
  have hlist : o.text.toList ++ [] = o'.text.toList ++ [] := by rw [h]
  exact toList_append_inj hlist

namespace Output

/-! ## The texts -/

/-- What a line calls an operation. -/
def named : Operation → String
  | .assign u => s!"assign {u.text}"
  | .unassign u => s!"unassign {u.text}"

/-- What a line calls a status. -/
def label : Status → String
  | .succeeded => "succeeded"
  | .partiallySucceeded => "partially_succeeded"
  | .failed => "failed"

theorem named_eq (o : Operation) : named o = o.text := by
  cases o with
  | assign u =>
    have hverb : "assign " = "assign" ++ " " := by decide
    show "assign " ++ u.text = _
    rw [hverb]
    rfl
  | unassign u =>
    have hverb : "unassign " = "unassign" ++ " " := by decide
    show "unassign " ++ u.text = _
    rw [hverb]
    rfl

theorem successLine_eq (o : Operation) : successLine o = s!"ok {named o}" := by
  rw [named_eq]
  rfl

theorem failureLine_eq (f : Failure) :
    failureLine f = s!"failed {named f.operation}: {f.fault.message}" := by
  rw [named_eq]
  rfl

theorem statusLine_eq (status : Status) (succeeded failed : Nat) :
    statusLine status succeeded failed =
      s!"status: {label status} ({succeeded} succeeded, {failed} failed)" := by
  have hlabel : status.word = label status := by cases status <;> rfl
  rw [statusLine, hlabel]

/-! ## Kinds of lines -/

/-- The character that a line begins with. -/
def opening (line : String) : Option Char := line.toList.head?

/-- The first character of a line is that of its first part. -/
theorem opening_append {s : String} {c : Char} (h : opening s = some c) (t : String) :
    opening (s ++ t) = some c := by
  rw [opening] at h
  rw [opening, String.toList_append, List.head?_append, h]
  rfl

/-- The line of a dry run for an operation. -/
def planLine : Operation → String
  | .assign u => s!"+ {u}"
  | .unassign u => s!"- {u}"

/-- The line for an operation that failed, with what is said about it. -/
def failedLine (o : Operation) (message : String) : String := s!"failed {o}: {message}"

/-- Lines of a plan open with a sign. -/
theorem opening_planLine (o : Operation) :
    opening (planLine o) = some (match o with | .assign _ => '+' | .unassign _ => '-') := by
  cases o with
  | assign u => exact opening_append rfl u.text
  | unassign u => exact opening_append rfl u.text

/-- Lines of successes open with the `o` of `ok`. -/
theorem opening_successLine (o : Operation) : opening (successLine o) = some 'o' :=
  opening_append rfl o.text

/-- Lines of failures open with the `f` of `failed`. -/
theorem opening_failedLine (o : Operation) (message : String) :
    opening (failedLine o message) = some 'f' :=
  opening_append (opening_append (opening_append rfl o.text) ": ") message

/-- The status line opens with an `s`. -/
theorem opening_statusLine (status : Status) (succeeded failed : Nat) :
    opening (statusLine status succeeded failed) = some 's' := by
  unfold statusLine
  repeat refine opening_append ?_ _
  rfl

/-- A batch of which nothing succeeded is counted as any other. -/
theorem allFailedLine_eq (count : Nat) : allFailedLine count = statusLine .failed 0 count := by
  have hwords : "status: failed (0 succeeded, " =
      "status: " ++ "failed" ++ " (" ++ toString 0 ++ " succeeded, " := by
    decide
  show "status: failed (0 succeeded, " ++ toString count ++ " failed)" = _
  rw [hwords]
  rfl

/-- The last line opens with an `r` for the role, or with an `m` if its members are not known. -/
theorem opening_confirmationLine (r : Role) (confirmed : Option (SortedSet UserId)) :
    opening (confirmationLine r confirmed) = some (if confirmed.isSome then 'r' else 'm') := by
  cases confirmed with
  | none =>
    show opening ("members of role " ++ r.name.text ++ " could not be confirmed") = _
    exact opening_append (opening_append rfl _) _
  | some members =>
    unfold confirmationLine
    repeat refine opening_append ?_ _
    rfl

/-- A line of a plan says which operation it is for. -/
theorem planLine_inj {o o' : Operation} (h : planLine o = planLine o') : o = o' := by
  have hopening := congrArg opening h
  rw [opening_planLine, opening_planLine] at hopening
  have hids : ∀ {sign : String} {u v : UserId}, sign ++ u.text = sign ++ v.text → u = v := by
    intro sign u v h
    have h := congrArg String.toList h
    rw [String.toList_append, String.toList_append] at h
    exact Id.text_inj (String.toList_inj.mp (List.append_cancel_left h))
  cases o with
  | assign u =>
    cases o' with
    | assign v => exact congrArg Operation.assign (hids h)
    | unassign v => cases hopening
  | unassign u =>
    cases o' with
    | assign v => cases hopening
    | unassign v => exact congrArg Operation.unassign (hids h)

/-- A line of success says which operation it is for. -/
theorem successLine_inj {o o' : Operation} (h : successLine o = successLine o') : o = o' := by
  have h : ("ok " ++ o.text).toList = ("ok " ++ o'.text).toList := congrArg String.toList h
  rw [String.toList_append, String.toList_append] at h
  exact Operation.text_inj (String.toList_inj.mp (List.append_cancel_left h))

theorem toList_failedLine (o : Operation) (message : String) :
    (failedLine o message).toList
      = "failed ".toList ++ (o.text.toList ++ (": ".toList ++ message.toList)) := by
  show ("failed " ++ o.text ++ ": " ++ message).toList = _
  simp only [String.toList_append, List.append_assoc]

/-- What is said about a failure comes after the operation, so it does not get in the way. -/
theorem failedLine_inj {o o' : Operation} {message message' : String}
    (h : failedLine o message = failedLine o' message') : o = o' := by
  have h := congrArg String.toList h
  rw [toList_failedLine, toList_failedLine] at h
  exact Operation.toList_append_inj (List.append_cancel_left h)

/-! ## Lines that are there -/

/-- The last line of a dry run: a role's name and two counts. -/
def planCount (r : Role) (added removed : Nat) : String :=
  s!"plan for role {r.name.text}: {added} to add, {removed} to remove"

theorem opening_planCount (r : Role) (added removed : Nat) :
    opening (planCount r added removed) = some 'p' := by
  unfold planCount
  repeat refine opening_append ?_ _
  rfl

/-- What a dry run prints: a line for each operation, and then the counts. -/
theorem planLines_eq (r : Role) (p : Plan) :
    planLines r p = p.operations.map planLine ++ [planCount r p.toAdd.size p.toRemove.size] := by
  rw [planLines, Plan.operations, List.map_append, List.map_map, List.map_map]
  rfl

variable {r : Role} {p : Plan} {o : Operation}

theorem planLine_ne_planCount {added removed : Nat} : planLine o ≠ planCount r added removed := by
  intro h
  have hopening := congrArg opening h
  rw [opening_planLine, opening_planCount] at hopening
  cases o <;> cases hopening

/-- A dry run announces what is in the plan, and nothing else. -/
theorem planLine_mem_planLines : planLine o ∈ planLines r p ↔ o ∈ p.operations := by
  rw [planLines_eq, List.mem_append, List.mem_singleton, or_iff_left planLine_ne_planCount]
  exact List.mem_map_of_injective fun _ _ => planLine_inj

/-- A dry run announces nothing twice. -/
theorem nodup_planLines (h : p.operations.Nodup) : (planLines r p).Nodup := by
  rw [planLines_eq, List.nodup_append]
  refine ⟨h.map fun _ _ => planLine_inj, List.pairwise_singleton _ _, ?_⟩
  intro line hline line' hline' heq
  obtain ⟨o, -, rfl⟩ := List.mem_map.mp hline
  exact planLine_ne_planCount (heq.trans (List.mem_singleton.mp hline'))

/-- The lines of a save on the operations of its batch. -/
def reportLines (report : Report) : List String :=
  report.succeeded.map successLine ++ report.failures.map failureLine

/-- What is printed of a report, word for word. -/
theorem reportLines_eq (report : Report) :
    reportLines report = report.succeeded.map (fun o => s!"ok {named o}") ++
      report.failures.map fun f => s!"failed {named f.operation}: {f.fault.message}" := by
  rw [reportLines, funext successLine_eq, funext failureLine_eq]

/-- Lines none of which could be taken for one on an operation. -/
def Apart (lines : List String) : Prop :=
  ∀ line ∈ lines, opening line ≠ some 'o' ∧ opening line ≠ some 'f'

variable {report : Report} {rest : List String}

/-- No line of a failure is taken for one of success. -/
theorem successLine_not_mem_failures (failures : List Failure) :
    successLine o ∉ failures.map failureLine := by
  intro hmem
  obtain ⟨f, -, hf⟩ := List.mem_map.mp hmem
  have hopening := (opening_failedLine _ _).symm.trans (congrArg opening hf)
  rw [opening_successLine] at hopening
  cases hopening

theorem Apart.successLine_not_mem (h : Apart rest) : successLine o ∉ rest := fun hmem =>
  (h _ hmem).1 (opening_successLine o)

/-- That an operation has succeeded is printed just if the report has it so, whatever other lines
come after. -/
theorem successLine_mem_append (h : Apart rest) :
    successLine o ∈ reportLines report ++ rest ↔ o ∈ report.succeeded := by
  rw [reportLines, List.mem_append, List.mem_append, or_iff_left h.successLine_not_mem,
    or_iff_left (successLine_not_mem_failures _)]
  exact List.mem_map_of_injective fun _ _ => successLine_inj

/-- That an operation has failed is printed, with some message, just if the report has it so. -/
theorem exists_failedLine_mem_append (h : Apart rest) :
    (∃ message, failedLine o message ∈ reportLines report ++ rest) ↔
      o ∈ report.failures.map (·.operation) := by
  constructor
  · rintro ⟨message, hmem⟩
    have hrest : failedLine o message ∉ rest := fun hmem =>
      (h _ hmem).2 (opening_failedLine o message)
    rw [reportLines, List.mem_append, List.mem_append, or_iff_left hrest] at hmem
    rcases hmem with hmem | hmem
    · obtain ⟨o', -, ho'⟩ := List.mem_map.mp hmem
      have hopening := (opening_successLine _).symm.trans (congrArg opening ho')
      rw [opening_failedLine] at hopening
      cases hopening
    · obtain ⟨f, hf, heq⟩ := List.mem_map.mp hmem
      rw [← failedLine_inj heq]
      exact List.mem_map_of_mem hf
  · intro hmem
    obtain ⟨f, hf, rfl⟩ := List.mem_map.mp hmem
    refine ⟨f.fault.message, ?_⟩
    have hline : failureLine f ∈ report.failures.map failureLine := List.mem_map_of_mem hf
    exact List.mem_append_left _ (List.mem_append_right _ hline)

/-! ## How often they are there -/

/-- Whether a line tells that an operation failed, whatever it says of the reason. -/
def tellsFailure (o : Operation) (line : String) : Bool :=
  s!"failed {named o}: ".toList.isPrefixOf line.toList

/-- The test for lines of failure, as a beginning that the line has. -/
theorem tellsFailure_iff {line : String} : tellsFailure o line = true ↔
    "failed ".toList ++ (o.text.toList ++ ": ".toList) <+: line.toList := by
  rw [tellsFailure, List.isPrefixOf_iff_prefix, named_eq]
  show ("failed " ++ o.text ++ ": ").toList <+: _ ↔ _
  rw [String.toList_append, String.toList_append, List.append_assoc]

/-- A line of failure tells of its own operation and of no other. -/
theorem tellsFailure_failureLine {f : Failure} :
    tellsFailure o (failureLine f) = true ↔ f.operation = o := by
  have hline : (failureLine f).toList = _ := toList_failedLine f.operation f.fault.message
  rw [tellsFailure_iff, hline, List.prefix_append_right_inj]
  constructor
  · rintro ⟨more, hmore⟩
    rw [List.append_assoc] at hmore
    exact (Operation.toList_append_inj hmore).symm
  · rintro rfl
    exact (List.prefix_append_right_inj _).mpr (List.prefix_append ..)

theorem not_tellsFailure {line : String} (h : opening line ≠ some 'f') :
    ¬ tellsFailure o line = true := by
  rw [tellsFailure_iff]
  rintro ⟨more, hmore⟩
  refine h ?_
  rw [opening, ← hmore]
  rfl

/-- There is one line for an operation that succeeded, if it is listed once. -/
theorem count_successLine (h : Apart rest) (hd : report.succeeded.Nodup) (o : Operation) :
    (reportLines report ++ rest).count (successLine o) = if o ∈ report.succeeded then 1 else 0 := by
  have hlines : (report.succeeded.map successLine).Nodup := hd.map fun _ _ => successLine_inj
  have hmem : successLine o ∈ report.succeeded.map successLine ↔ o ∈ report.succeeded :=
    List.mem_map_of_injective fun _ _ => successLine_inj
  rw [reportLines, List.count_append, List.count_append,
    List.count_eq_zero.mpr (successLine_not_mem_failures _),
    List.count_eq_zero.mpr h.successLine_not_mem, hlines.count, if_congr hmem rfl rfl,
    Nat.add_zero]

/-- There is one line for an operation that failed, if it is listed once. -/
theorem countP_tellsFailure (h : Apart rest) (hd : (report.failures.map (·.operation)).Nodup)
    (o : Operation) :
    (reportLines report ++ rest).countP (tellsFailure o)
      = if o ∈ report.failures.map (·.operation) then 1 else 0 := by
  have hsucceeded : (report.succeeded.map successLine).countP (tellsFailure o) = 0 := by
    refine List.countP_eq_zero.mpr fun line hline => ?_
    obtain ⟨o', -, rfl⟩ := List.mem_map.mp hline
    exact not_tellsFailure (by rw [opening_successLine]; decide)
  have hrest : rest.countP (tellsFailure o) = 0 :=
    List.countP_eq_zero.mpr fun line hline => not_tellsFailure (h line hline).2
  have hfailures : (report.failures.map failureLine).countP (tellsFailure o)
      = (report.failures.map (·.operation)).count o := by
    rw [List.count_eq_countP, List.countP_map, List.countP_map]
    refine List.countP_congr fun f _ => ?_
    rw [Function.comp_apply, Function.comp_apply, tellsFailure_failureLine, beq_iff_eq]
  rw [reportLines, List.countP_append, List.countP_append, hsucceeded, hrest, hfailures, hd.count]
  rw [Nat.zero_add, Nat.add_zero]

/-- A status line is taken for neither success nor failure. -/
theorem apart_statusLine {status : Status} {succeeded failed : Nat} (h : Apart rest) :
    Apart (statusLine status succeeded failed :: rest) := by
  intro line hline
  rcases List.mem_cons.mp hline with rfl | hline
  · rw [opening_statusLine]
    exact ⟨by decide, by decide⟩
  · exact h line hline

/-- A line about the members is taken for neither success nor failure. -/
theorem apart_confirmationLine (r : Role) (confirmed : Option (SortedSet UserId)) :
    Apart [confirmationLine r confirmed] := by
  intro line hline
  rw [List.mem_singleton.mp hline, opening_confirmationLine]
  cases confirmed <;> simp

/-- A save is answered whatever became of its operations, by lines on each of them. -/
theorem ofSave_result (r : Role) (plan : Plan) (report : Report)
    (confirmed : Option (SortedSet UserId)) :
    ∃ told rest, ofSave r (report.result.map fun x => ⟨plan, x, confirmed⟩) = .ok told ∧
      told.status = report.status ∧ told.lines = reportLines report ++ rest ∧ Apart rest := by
  rw [Report.result_eq]
  by_cases hall : report.failures ≠ [] ∧ report.succeeded = []
  · obtain ⟨hfailed, hnone⟩ := hall
    have hstatus : report.status = .failed := by
      obtain ⟨f, fs, hfs⟩ := List.exists_cons_of_ne_nil hfailed
      rw [Report.status, Report.successCount, Report.failureCount, hnone, hfs]
      rfl
    have hlines : reportLines report = report.failures.map failureLine := by
      rw [reportLines, hnone]
      rfl
    rw [if_pos ⟨hfailed, hnone⟩, hstatus, hlines]
    refine ⟨_, [allFailedLine report.failures.length], rfl, rfl, rfl, ?_⟩
    rw [allFailedLine_eq]
    exact apart_statusLine fun _ hline => absurd hline List.not_mem_nil
  · rw [if_neg hall]
    exact ⟨_, _, rfl, rfl, rfl, apart_statusLine (apart_confirmationLine r confirmed)⟩

end Output

end Rolebook
