/-!
Classes of characters given as ranges of code points.
-/

namespace Scaffold.Text

/-- The code point lies in one of the ranges, ends included. -/
def InRanges (ranges : List (Nat × Nat)) (code : Nat) : Prop :=
  ∃ range ∈ ranges, range.1 ≤ code ∧ code ≤ range.2

instance (ranges : List (Nat × Nat)) (code : Nat) : Decidable (InRanges ranges code) :=
  inferInstanceAs (Decidable (∃ range ∈ ranges, range.1 ≤ code ∧ code ≤ range.2))

end Scaffold.Text
