import Scaffold.Text.Occurs

/-!
Java types for column types.  A rule lists words; the first rule one of whose words occurs in the
column type decides, wherever in the text the word stands and in either case.
-/

namespace Scaffold

/-- A type as it is written in a declaration, and what has to be imported for it. -/
structure JavaType where
  name : String
  qualifier : Option String := none
deriving DecidableEq, Repr

namespace JavaType

/-- The type of texts, and of every column type that no rule knows. -/
def string : JavaType := { name := "String" }

/-- Column types that contain one of `words` map to `type`. -/
structure Rule where
  words : List String
  type : JavaType

/-- In order of priority: `bigint` comes before the `int` inside it. -/
def rules : List Rule := [
  ⟨["varchar", "char", "text", "json"], string⟩,
  ⟨["bigint"], { name := "Long" }⟩,
  ⟨["tinyint", "integer", "int"], { name := "Integer" }⟩,
  ⟨["decimal", "numeric", "double", "float", "real"],
    { name := "BigDecimal", qualifier := some "java.math.BigDecimal" }⟩,
  ⟨["bit", "boolean"], { name := "Boolean" }⟩,
  ⟨["binary"], { name := "byte[]" }⟩,
  ⟨["date", "time"], { name := "LocalDateTime", qualifier := some "java.time.LocalDateTime" }⟩]

/-- The text with its ASCII capitals made small. -/
def lower (text : String) : List Char :=
  text.toList.map Char.toLower

def Rule.accepts (rule : Rule) (sqlType : String) : Bool :=
  rule.words.any fun word => Text.occurs word.toList (lower sqlType)

theorem Rule.accepts_iff {rule : Rule} {sqlType : String} :
    rule.accepts sqlType = true ↔ ∃ word ∈ rule.words, word.toList <:+: lower sqlType := by
  simp [accepts, Text.occurs_iff]

/-- The position of the deciding rule, or the number of rules when none matches. -/
def ruleIndex (sqlType : String) : Nat :=
  rules.findIdx (·.accepts sqlType)

def ofSqlType (sqlType : String) : JavaType :=
  match rules[ruleIndex sqlType]? with
  | some rule => rule.type
  | none => string

end JavaType
end Scaffold
