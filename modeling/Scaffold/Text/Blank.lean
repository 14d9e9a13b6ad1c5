import Scaffold.Text.Ranges

/-!
White space, by the Unicode property of that name.
-/

namespace Scaffold.Text

/-- The code points with property White_Space. -/
def whiteSpaceRanges : List (Nat × Nat) := [
  (0x9, 0xD), (0x20, 0x20), (0x85, 0x85), (0xA0, 0xA0), (0x1680, 0x1680), (0x2000, 0x200A),
  (0x2028, 0x2029), (0x202F, 0x202F), (0x205F, 0x205F), (0x3000, 0x3000)]

def IsWhiteSpace (c : Char) : Prop := InRanges whiteSpaceRanges c.toNat

instance (c : Char) : Decidable (IsWhiteSpace c) :=
  inferInstanceAs (Decidable (InRanges whiteSpaceRanges c.toNat))

theorem isWhiteSpace_of_isWhitespace {c : Char} (ascii : c.isWhitespace = true) :
    IsWhiteSpace c := by
  simp only [Char.isWhitespace, Bool.or_eq_true, decide_eq_true_eq] at ascii
  rcases ascii with ((rfl | rfl) | rfl) | rfl <;> decide

def IsBlank (text : String) : Prop := ∀ c ∈ text.toList, IsWhiteSpace c

instance (text : String) : Decidable (IsBlank text) :=
  List.decidableBAll IsWhiteSpace text.toList

end Scaffold.Text
