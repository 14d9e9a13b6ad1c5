import Scaffold.Proofs.Text.Case
import Scaffold.Role
import Scaffold.Table

/-!
The characters of class names.  Deriving a class name drops characters and raises letters, so that a
table name that needs no quoting gives class names of letters, digits and `$`.
-/

namespace Scaffold

namespace Identifier

/-- A character of a table name, or its capital. -/
def IsRaised (source c : Char) : Prop := c = source ∨ c = source.toUpper

/-- Only a letter comes from another character. -/
theorem IsRaised.eq_of_isAlpha_eq_false {source c : Char} (raised : IsRaised source c)
    (noLetter : c.isAlpha = false) : c = source := by
  rcases raised with same | capital
  · exact same
  · have other : ¬ source.isLower = true := by
      intro small
      rw [capital, Char.isAlpha_toUpper_eq_isAlpha, Char.isAlpha, small, Bool.or_true] at noLetter
      contradiction
    rw [capital, Char.toUpper_eq_of_not_isLower other]

theorem dropTablePrefix_cases (name : String) :
    dropTablePrefix name = name ∨
      ∃ front ∈ tablePrefixes, name = front ++ dropTablePrefix name := by
  unfold dropTablePrefix
  split
  next rest found =>
    obtain ⟨front, listed, cut⟩ := List.exists_of_findSome?_eq_some found
    rw [after?_eq_some_iff] at cut
    refine .inr ⟨front, listed, ?_⟩
    rw [← String.toList_inj, cut, String.toList_append, String.toList_ofList]
  next => exact .inl rfl

theorem dropTablePrefix_suffix (name : String) :
    (dropTablePrefix name).toList <:+ name.toList := by
  rcases dropTablePrefix_cases name with kept | ⟨front, _, cut⟩
  · rw [kept]
  · exact ⟨front.toList, by rw [← String.toList_append, ← cut]⟩

/-- Each character comes from one of the name, in the same order; only underscores are gone. -/
theorem forall₂_camelChars (raised : Bool) (chars : List Char) :
    List.Forall₂ IsRaised (chars.filter (· ≠ '_')) (camelChars raised chars) := by
  induction chars generalizing raised with
  | nil => exact .nil
  | cons c rest inductionHypothesis =>
    by_cases underscore : c = '_'
    · simpa [camelChars, underscore] using inductionHypothesis true
    · have own : IsRaised c (if raised then c.toUpper else c) := by
        cases raised with
        | true => exact .inr rfl
        | false => exact .inl rfl
      rw [List.filter_cons_of_pos (by simpa using underscore), camelChars, if_neg underscore]
      exact .cons own (inductionHypothesis false)

theorem mem_camelChars {raised : Bool} {chars : List Char} {c : Char}
    (among : c ∈ camelChars raised chars) : ∃ source ∈ chars, source ≠ '_' ∧ IsRaised source c := by
  have alike := forall₂_camelChars raised chars
  obtain ⟨position, rfl⟩ := List.get_of_mem among
  have within : position.val < (chars.filter (· ≠ '_')).length := by
    rw [alike.length_eq]
    exact position.isLt
  obtain ⟨found, other⟩ := List.mem_filter.mp (List.get_mem _ ⟨position.val, within⟩)
  exact ⟨_, found, by simpa using other, alike.get within position.isLt⟩

theorem mem_capitalChars {chars : List Char} {c : Char} (among : c ∈ capitalChars chars) :
    ∃ source ∈ chars, IsRaised source c := by
  cases chars with
  | nil => simp [capitalChars] at among
  | cons first rest =>
    rcases List.mem_cons.mp among with rfl | among
    · exact ⟨first, List.mem_cons_self, .inr rfl⟩
    · exact ⟨c, List.mem_cons_of_mem _ among, .inl rfl⟩

def IsClassChar (c : Char) : Prop := c.isAlphanum = true ∨ c = '$'

instance (c : Char) : Decidable (IsClassChar c) := inferInstanceAs (Decidable (_ ∨ _))

theorem IsClassChar.toUpper {c : Char} (fits : IsClassChar c) : IsClassChar c.toUpper := by
  cases small : c.isLower with
  | true =>
    have letter : c.toUpper.isAlpha = true := by
      rw [Char.isAlpha_toUpper_eq_isAlpha, Char.isAlpha, small, Bool.or_true]
    exact .inl (by rw [Char.isAlphanum, letter, Bool.true_or])
  | false =>
    have capital : ¬ c.isLower = true := by simp [small]
    rwa [Char.toUpper_eq_of_not_isLower capital]

theorem IsClassChar.of_isRaised {source c : Char} (fits : IsClassChar source)
    (raised : IsRaised source c) : IsClassChar c := by
  rcases raised with rfl | rfl
  · exact fits
  · exact fits.toUpper

theorem mem_memberStem {table : String} {c : Char} (among : c ∈ (memberStem table).toList) :
    ∃ source ∈ table.toList, source ≠ '_' ∧ IsRaised source c := by
  rw [memberStem, toList_camelCase] at among
  obtain ⟨source, found, other, raised⟩ := mem_camelChars among
  exact ⟨source, (dropTablePrefix_suffix table).mem found, other, raised⟩

theorem mem_classStem {table : String} {c : Char} (among : c ∈ (classStem table).toList) :
    ∃ source ∈ (memberStem table).toList, IsRaised source c := by
  rw [classStem, toList_capitalize] at among
  exact mem_capitalChars among

theorem isClassChar_of_mem_memberStem {table : String} {c : Char} (named : Table.IsName table)
    (among : c ∈ (memberStem table).toList) : IsClassChar c := by
  obtain ⟨source, found, other, raised⟩ := mem_memberStem among
  refine IsClassChar.of_isRaised ?_ raised
  rcases named.2 source found with alphanum | underscore | dollar
  · exact .inl alphanum
  · exact absurd underscore other
  · exact .inr dollar

theorem isClassChar_of_mem_classStem {table : String} {c : Char} (named : Table.IsName table)
    (among : c ∈ (classStem table).toList) : IsClassChar c := by
  obtain ⟨source, found, raised⟩ := mem_classStem among
  exact (isClassChar_of_mem_memberStem named found).of_isRaised raised

end Identifier

namespace Role

open Identifier

theorem isClassChar_of_mem_suffix {role : Role} {c : Char} (among : c ∈ role.suffix.toList) :
    IsClassChar c := by
  have every : role.suffix.toList.all (IsClassChar ·) = true := by cases role <;> decide
  exact of_decide_eq_true (List.all_eq_true.mp every c among)

theorem isClassChar_of_mem_className {role : Role} {table : String} {c : Char}
    (named : Table.IsName table) (among : c ∈ (role.className table).toList) : IsClassChar c := by
  rw [className, String.toList_append] at among
  rcases List.mem_append.mp among with stem | suffix
  · exact isClassChar_of_mem_classStem named stem
  · exact isClassChar_of_mem_suffix suffix

end Role
end Scaffold
