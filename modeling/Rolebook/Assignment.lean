import Rolebook.Id

/-!
# Assignments

A user holds a role. Assignments are ordered by user and then by role.
-/

namespace Rolebook

/-- The fact that a user holds a role. -/
structure Assignment where
  user : UserId
  role : RoleId
  deriving DecidableEq

namespace Assignment

@[ext] theorem ext {a b : Assignment} (hu : a.user = b.user) (hr : a.role = b.role) : a = b := by
  cases a; cases b; cases hu; cases hr; rfl

instance : Ranked Assignment where
  rank a := rank a.user * Uuid.count + rank a.role
  rank_inj {a b} h := by
    have ha := Id.rank_lt a.role
    have hb := Id.rank_lt b.role
    unfold Uuid.count at h ha hb
    refine ext (Ranked.rank_inj ?_) (Ranked.rank_inj ?_) <;> omega

end Assignment

end Rolebook
