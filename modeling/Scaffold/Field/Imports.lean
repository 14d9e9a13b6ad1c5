import Scaffold.Field
import Scaffold.Text.Occurs

/-!
Import lines for the types of fields.  A line is left out when the lines so far already contain its
qualifier, as a text; for the qualifiers of column types this means that each is imported once.
-/

namespace Scaffold.Field

def importLine (qualifier : List Char) : List Char :=
  "import ".toList ++ qualifier ++ ";\n".toList

/-- The lines with that of `qualifier` added, unless they already contain it.  The empty qualifier
is contained in every text. -/
def addImport (lines qualifier : List Char) : List Char :=
  if Text.occurs qualifier lines then lines else lines ++ importLine qualifier

theorem addImport_nil (lines : List Char) : addImport lines [] = lines :=
  if_pos (Text.occurs_nil lines)

/-- Import lines for the fields, inherited ones included, in order of first need. -/
def importLines (fields : List Field) : String :=
  .ofList (((fields.filterMap (·.qualifier)).map String.toList).foldl addImport [])

/-- The import lines without the line break at their end. -/
def importBlock (fields : List Field) : String :=
  .ofList (importLines fields).toList.dropLast

end Scaffold.Field
