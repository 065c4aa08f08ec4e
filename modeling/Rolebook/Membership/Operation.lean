import Rolebook.Id

/-!
# Membership operations

One change to a role's members, for one user. Operations are ordered: assignments before removals,
and each of them by user.
-/

namespace Rolebook

/-- A change to a role's members. -/
inductive Operation where
  /-- The user gets the role. -/
  | assign (user : UserId)
  /-- The user loses the role. -/
  | unassign (user : UserId)
  deriving DecidableEq

namespace Operation

/-- The user whose membership changes. -/
def user : Operation → UserId
  | assign u => u
  | unassign u => u

/-- The word for the change. -/
def verb : Operation → String
  | assign _ => "assign"
  | unassign _ => "unassign"

/-- The word and the user. -/
def text (o : Operation) : String := s!"{o.verb} {o.user}"

instance : ToString Operation := ⟨text⟩

instance : Ranked Operation where
  rank
    | assign u => rank u
    | unassign u => Uuid.count + rank u
  rank_inj {a b} h := by
    cases a <;> cases b <;> rename_i u v <;> have hu := Id.rank_lt u <;> have hv := Id.rank_lt v
    · exact congrArg assign (Ranked.rank_inj h)
    · simp only at h; omega
    · simp only at h; omega
    · exact congrArg unassign (Ranked.rank_inj (by simp only at h; omega))

theorem rank_assign (u : UserId) : rank (assign u) = rank u := rfl

/-- All assignments come before all unassignments. -/
theorem rank_unassign (u : UserId) : rank (unassign u) = Uuid.count + rank u := rfl

end Operation

end Rolebook
