set_option autoImplicit false

/- Sets of code points, given as intervals. -/
namespace ClassExpansion.Text

/-- A set of code points as closed intervals. -/
structure CodeSet where
  intervals : List (Nat × Nat)

namespace CodeSet

def contains (set : CodeSet) (c : Char) : Bool :=
  set.intervals.any fun i => i.1 ≤ c.toNat && c.toNat ≤ i.2

theorem contains_iff (set : CodeSet) (c : Char) :
    set.contains c = true ↔ ∃ i ∈ set.intervals, i.1 ≤ c.toNat ∧ c.toNat ≤ i.2 := by
  simp only [contains, List.any_eq_true, Bool.and_eq_true, decide_eq_true_eq]

end CodeSet

end ClassExpansion.Text
