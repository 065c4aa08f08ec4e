import Rolebook.Administrator.Members

/-!
# Output

What a command answers: lines, and a status that says whether all of it was done. Fields within a
line are set apart by tabs.
-/

namespace Rolebook

/-- What a command answers. -/
structure Output where
  status : Status
  lines : List String
  deriving DecidableEq

namespace Output

/-- The answer of a command that cannot fail in part. -/
def succeeded (lines : List String) : Output := ⟨.succeeded, lines⟩

/-- The fields of a line. -/
def fields (texts : List String) : String := "\t".intercalate texts

/-- A role in a list. -/
def roleLine (r : Role) : String :=
  fields [r.id.text, r.name.text, r.displayName.text, if r.isSystem then "system" else "custom",
    s!"{r.userCount.toNat} users", s!"{r.permissions.length} permissions"]

/-- A permission in a list. -/
def permissionLine (p : Permission) : String := fields [p.id.text, p.key, p.description]

/-- A user in a list. -/
def userLine (u : User) : String := fields [u.id.text, u.username, u.label]

/-- A user in a list of members. -/
def memberLine (u : User) : String := fields [u.id.text, u.label]

/-- What a command did to a role. -/
def roleChangeLine (done : String) (r : Role) : String := fields [s!"{done} {r.id}", r.name.text]

/-- The lines of a plan. -/
def planLines (r : Role) (p : Plan) : List String :=
  p.toAdd.toList.map (fun u => s!"+ {u}") ++ p.toRemove.toList.map (fun u => s!"- {u}") ++
    [s!"plan for role {r.name.text}: {p.toAdd.size} to add, {p.toRemove.size} to remove"]

/-- An operation that succeeded. -/
def successLine (o : Operation) : String := s!"ok {o}"

/-- An operation that failed. -/
def failureLine (f : Failure) : String := s!"failed {f.operation}: {f.fault.message}"

/-- The status of a batch and its counts. -/
def statusLine (status : Status) (succeeded failed : Nat) : String :=
  s!"status: {status.word} ({succeeded} succeeded, {failed} failed)"

/-- The count of a batch of which nothing succeeded. -/
def allFailedLine (count : Nat) : String := s!"status: failed (0 succeeded, {count} failed)"

/-- What is known of the members after a save. -/
def confirmationLine (r : Role) : Option (SortedSet UserId) → String
  | some members => s!"role {r.name.text} now has {members.size} members"
  | none => s!"members of role {r.name.text} could not be confirmed"

/-- The answer to a save. -/
def ofSaved (r : Role) (saved : Saved) : Output where
  status := saved.report.status
  lines :=
    saved.report.succeeded.map successLine ++ saved.report.failures.map failureLine ++
      [statusLine saved.report.status saved.report.successCount saved.report.failureCount,
        confirmationLine r saved.confirmed]

/-- The answer to a save of which nothing succeeded. -/
def ofFailures (count : Nat) (failures : List Failure) : Output where
  status := .failed
  lines := failures.map failureLine ++ [allFailedLine count]

/-- The answer to a save, or why there is none. -/
def ofSave (r : Role) : Except BatchFault Saved → Except Fault Output
  | .ok saved => .ok (ofSaved r saved)
  | .error (.allFailed _ count failures) => .ok (ofFailures count failures)
  | .error (.call fault) => .error fault

end Output

end Rolebook
