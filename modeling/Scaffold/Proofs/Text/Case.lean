import Mathlib

/-!
The case of ASCII letters, and texts that differ in nothing else.  The library's own lemmas on the case
of a character come with all of it only.
-/

namespace Scaffold.Text

theorem isAlpha_eq_false_of_isDigit {c : Char} (digit : c.isDigit = true) : c.isAlpha = false := by
  rw [Char.isDigit_iff_toNat] at digit
  simp [Char.isAlpha, Char.isUpper, Char.isLower, UInt32.le_iff_toNat_le] at digit ⊢
  omega

theorem isDigit_toUpper (c : Char) : c.toUpper.isDigit = c.isDigit := by
  cases small : c.isLower with
  | true =>
    have letter : c.isAlpha = true := by simp [Char.isAlpha, small]
    have noDigit {d : Char} (letter : d.isAlpha = true) : d.isDigit = false := by
      rw [← Bool.not_eq_true]
      intro digit
      rw [isAlpha_eq_false_of_isDigit digit] at letter
      contradiction
    rw [noDigit letter, noDigit (c.isAlpha_toUpper_eq_isAlpha.trans letter)]
  | false => rw [Char.toUpper_eq_of_not_isLower (by simp [small])]

def SameLetter (c d : Char) : Prop := d = c ∨ d = c.toUpper ∨ d = c.toLower

theorem sameLetter_iff {c d : Char} : SameLetter c d ↔ c.toLower = d.toLower := by
  constructor
  · rintro (rfl | rfl | rfl)
    · rfl
    · simp
    · simp
  · intro same
    cases capital : d.isUpper with
    | true =>
      have other : ¬ d.isLower = true := Char.not_isLower_of_isUpper capital
      have raised : c.toUpper = d.toUpper := by
        rw [← Char.toUpper_toLower_eq_toUpper c, same, Char.toUpper_toLower_eq_toUpper]
      exact .inr (.inl (by rw [raised, Char.toUpper_eq_of_not_isLower other]))
    | false =>
      have other : ¬ d.isUpper = true := by simp [capital]
      exact .inr (.inr (by rw [same, Char.toLower_eq_of_not_isUpper other]))

/-- The texts are the same, character by character, but for the case of ASCII letters. -/
def SameButCase (text other : String) : Prop :=
  List.Forall₂ SameLetter text.toList other.toList

theorem sameButCase_iff {text other : String} :
    SameButCase text other ↔
      text.toList.map Char.toLower = other.toList.map Char.toLower := by
  have each : SameLetter = fun c d => c.toLower = d.toLower := by
    funext c d
    exact propext sameLetter_iff
  rw [SameButCase, each, ← List.forall₂_eq_eq_eq, List.forall₂_map_left_iff,
    List.forall₂_map_right_iff]

end Scaffold.Text
