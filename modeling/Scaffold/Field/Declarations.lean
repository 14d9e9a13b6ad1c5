import Scaffold.Field

/-!
Declarations of fields, aligned in columns.  The columns are as wide as the widest type and the
widest name of all fields, inherited ones included.  A text's width is its number of bytes, and
padding adds one character for each byte that is missing.
-/

namespace Scaffold.Field

/-- The bytes of the widest text. -/
def widest (texts : List String) : Nat :=
  (texts.map String.utf8ByteSize).foldr max 0

theorem utf8ByteSize_le_widest {text : String} {texts : List String} (among : text ∈ texts) :
    text.utf8ByteSize ≤ widest texts := by
  unfold widest
  induction texts with
  | nil => simp at among
  | cons head tail inductionHypothesis =>
    simp only [List.map_cons, List.foldr_cons]
    rcases List.mem_cons.mp among with rfl | among
    · exact Nat.le_max_left ..
    · exact Nat.le_trans (inductionHypothesis among) (Nat.le_max_right ..)

def spaces (count : Nat) : String :=
  .ofList (List.replicate count ' ')

/-- The declaration of a field, for columns of these widths.  No width is too great for padding. -/
def declaration (typeWidth nameWidth : Nat) (field : Field) : String :=
  "  private " ++ field.javaType ++ spaces (typeWidth - field.javaType.length) ++ " "
    ++ field.name ++ ";" ++ spaces (nameWidth - field.name.utf8ByteSize + 1)
    ++ "// " ++ field.comment

def declarations (fields : List Field) : List String :=
  (fields.filter (·.IsDeclared)).map
    (declaration (widest (fields.map (·.javaType))) (widest (fields.map (·.name))))

/-- The declarations on a line each, without a line break at the end. -/
def declarationBlock (fields : List Field) : String :=
  "\n".intercalate (declarations fields)

end Scaffold.Field
