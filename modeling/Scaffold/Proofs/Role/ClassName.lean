import Scaffold.Proofs.Role.Alphabet
import Scaffold.Proofs.Text.Case

/-!
Which class names Java accepts.  All characters of a class name are those of identifiers, and none
of them is a small letter in front, which keeps reserved words away.  What can go wrong is what
stands in front: when nothing but underscores is left of a table's name, the class names are the
bare suffixes, and the entity has none; a digit may come to stand in front, too.
-/

namespace Scaffold

namespace Java

/-- The keywords and the literals that look like one. -/
def reservedWords : List String := [
  "_", "abstract", "assert", "boolean", "break", "byte", "case", "catch", "char", "class", "const",
  "continue", "default", "do", "double", "else", "enum", "extends", "false", "final", "finally",
  "float", "for", "goto", "if", "implements", "import", "instanceof", "int", "interface", "long",
  "native", "new", "null", "package", "private", "protected", "public", "return", "short",
  "static", "strictfp", "super", "switch", "synchronized", "this", "throw", "throws", "transient",
  "true", "try", "void", "volatile", "while"]

/-- The text is an identifier, written in ASCII letters, digits, `_` and `$`. -/
structure IsIdentifier (text : String) : Prop where
  filled : text ≠ ""
  chars : ∀ c ∈ text.toList, c.isAlphanum = true ∨ c = '_' ∨ c = '$'
  start : ∀ c ∈ text.toList.head?, c.isDigit = false
  free : text ∉ reservedWords

theorem notMem_reservedWords {text : String} (noUnderscore : '_' ∉ text.toList)
    (noSmall : ∀ c ∈ text.toList.head?, c.isLower = false) : text ∉ reservedWords := by
  have every : reservedWords.all fun word =>
      word.toList.contains '_' || word.toList.head?.any Char.isLower := by decide
  intro among
  rcases Bool.or_eq_true_iff.mp (List.all_eq_true.mp every text among) with underscore | small
  · exact noUnderscore (List.contains_iff_mem.mp underscore)
  · obtain ⟨c, first, lower⟩ := (Option.any_eq_true _ _).mp small
    rw [noSmall c first] at lower
    contradiction

end Java

namespace Identifier

theorem head?_capitalChars (chars : List Char) :
    (capitalChars chars).head? = chars.head?.map Char.toUpper := by
  cases chars with
  | nil => rfl
  | cons c rest => rfl

/-- The first character that is no underscore comes to stand in front. -/
theorem head?_capitalChars_camelChars (raised : Bool) (chars : List Char) :
    (capitalChars (camelChars raised chars)).head? =
      (chars.find? (· ≠ '_')).map Char.toUpper := by
  induction chars generalizing raised with
  | nil => rfl
  | cons c rest inductionHypothesis =>
    by_cases underscore : c = '_'
    · simpa [camelChars, underscore] using inductionHypothesis true
    · cases raised with
      | true => simp [camelChars, underscore, capitalChars]
      | false => simp [camelChars, underscore, capitalChars]

theorem head?_classStem (table : String) :
    (classStem table).toList.head? =
      ((dropTablePrefix table).toList.find? (· ≠ '_')).map Char.toUpper := by
  rw [classStem, toList_capitalize, memberStem, toList_camelCase, head?_capitalChars_camelChars]

theorem classStem_eq_empty_iff (table : String) :
    classStem table = "" ↔ ∀ c ∈ (dropTablePrefix table).toList, c = '_' := by
  rw [← String.toList_eq_nil_iff, ← List.head?_eq_none_iff, head?_classStem,
    Option.map_eq_none_iff, List.find?_eq_none]
  simp

end Identifier

namespace Role

open Identifier

variable {table : String}

theorem isLower_eq_false_of_head?_className {role : Role} {c : Char}
    (first : c ∈ (role.className table).toList.head?) : c.isLower = false := by
  rw [← capitalize_memberName, toList_capitalize, head?_capitalChars] at first
  obtain ⟨source, _, rfl⟩ := Option.mem_map.mp first
  exact source.isLower_toUpper_eq_false

theorem isIdentifier_className_iff (named : Table.IsName table) (role : Role) :
    Java.IsIdentifier (role.className table) ↔ role.className table ≠ "" ∧
      ∀ c ∈ (role.className table).toList.head?, c.isDigit = false := by
  constructor
  · intro identifier
    exact ⟨identifier.filled, identifier.start⟩
  · rintro ⟨filled, start⟩
    refine ⟨filled, ?_, start, ?_⟩
    · intro c among
      rcases isClassChar_of_mem_className named among with alphanum | dollar
      · exact .inl alphanum
      · exact .inr (.inr dollar)
    · apply Java.notMem_reservedWords
      · intro underscore
        exact absurd (isClassChar_of_mem_className named underscore) (by decide)
      · intro c first
        exact isLower_eq_false_of_head?_className first

theorem className_entity (table : String) : entity.className table = classStem table := by
  simp [className, suffix]

theorem head?_className {first : Char}
    (found : (dropTablePrefix table).toList.find? (· ≠ '_') = some first) (role : Role) :
    (role.className table).toList.head? = some first.toUpper := by
  have stem := head?_classStem table
  rw [found] at stem
  rw [className, String.toList_append, List.head?_append, stem]
  rfl

theorem className_of_classStem_eq_empty (empty : classStem table = "") (role : Role) :
    role.className table = role.suffix := by
  simp [className, empty]

/-- The class names of a table whose name needs no quoting.  Java takes all of them exactly when
what is left of the name has a character other than an underscore, and the first one is no digit. -/
theorem classNames_of_isName (named : Table.IsName table) :
    (∀ role : Role, (∀ c ∈ (role.className table).toList, IsClassChar c) ∧
      ∀ c ∈ (role.className table).toList.head?, c.isLower = false) ∧
    ((∀ role : Role, Java.IsIdentifier (role.className table)) ↔
      ∃ first, (dropTablePrefix table).toList.find? (· ≠ '_') = some first ∧
        first.isDigit = false) ∧
    (entity.className table = "" ↔ ∀ c ∈ (dropTablePrefix table).toList, c = '_') ∧
    (entity.className table = "" → ∀ role : Role, role.className table = role.suffix) := by
  refine ⟨fun role => ⟨?_, ?_⟩, ⟨?_, ?_⟩, ?_, ?_⟩
  · intro c among
    exact isClassChar_of_mem_className named among
  · intro c first
    exact isLower_eq_false_of_head?_className first
  · intro identifiers
    -- The entity's name has no suffix that could stand in for a name that is lost.
    have own := identifiers entity
    rw [className_entity] at own
    cases found : (dropTablePrefix table).toList.find? (· ≠ '_') with
    | none =>
      have empty := head?_classStem table
      rw [found, Option.map_none, List.head?_eq_none_iff, String.toList_eq_nil_iff] at empty
      exact absurd empty own.filled
    | some first =>
      refine ⟨first, rfl, ?_⟩
      have start := own.start first.toUpper
      rw [head?_classStem, found] at start
      rw [← Text.isDigit_toUpper]
      exact start rfl
  · rintro ⟨first, found, noDigit⟩ role
    have start := head?_className found role
    rw [isIdentifier_className_iff named]
    refine ⟨?_, ?_⟩
    · intro empty
      rw [empty] at start
      contradiction
    · intro c among
      rw [start, Option.mem_some_iff] at among
      rw [← among, Text.isDigit_toUpper, noDigit]
  · rw [className_entity]
    exact classStem_eq_empty_iff table
  · intro empty role
    rw [className_entity] at empty
    exact className_of_classStem_eq_empty empty role

/-- A name can be lost altogether, and a sign of its own can come to stand in front. -/
theorem classNames_of_mark_alone :
    (Table.IsName "tb_" ∧ entity.className "tb_" = "" ∧
      (∀ role : Role, role.className "tb_" = role.suffix) ∧
      ¬ ∀ role : Role, Java.IsIdentifier (role.className "tb_")) ∧
    (Table.IsName "t__$1" ∧ ∀ role : Role, Java.IsIdentifier (role.className "t__$1")) := by
  have alone : Table.IsName "tb_" := by decide
  have signed : Table.IsName "t__$1" := by decide
  obtain ⟨_, _, empty, suffixes⟩ := classNames_of_isName alone
  obtain ⟨_, accepted, _, _⟩ := classNames_of_isName signed
  have left : dropTablePrefix "tb_" = "" := by decide
  have nothing : entity.className "tb_" = "" := empty.mpr (by simp [left])
  refine ⟨⟨alone, nothing, suffixes nothing, ?_⟩, signed, accepted.mpr ⟨'$', by decide, by decide⟩⟩
  intro identifiers
  exact (identifiers entity).filled nothing

end Role
end Scaffold
