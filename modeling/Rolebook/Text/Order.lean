/-!
# Order of texts

Texts are ordered by their code points, which is also the order of their UTF-8 bytes: capital
letters come before small ones, and a text comes before its continuations.
-/

namespace Rolebook.Text

/-- `s` comes before `t`, or is `t`. -/
def atMost (s t : String) : Bool :=
  decide (s ≤ t)

theorem atMost_trans (s t u : String) (h : atMost s t = true) (k : atMost t u = true) :
    atMost s u = true := by
  simp only [atMost, decide_eq_true_eq] at *
  exact String.le_trans h k

theorem atMost_total (s t : String) : (atMost s t || atMost t s) = true := by
  simp only [atMost, Bool.or_eq_true, decide_eq_true_eq]
  exact String.le_total s t

end Rolebook.Text
