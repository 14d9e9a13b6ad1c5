import Scaffold.Table

/-!
The comment in front of a generated class.
-/

namespace Scaffold.Javadoc

/-- The comment names the class and its table, who generated it and when. -/
def header (className : String) (table : Table) (author generatedAt : String) : String :=
  "/**\n * " ++ className ++ " - " ++ table.comment
    ++ "\n *\n * <p>table_name: " ++ table.name
    ++ "</p>\n *\n * @author " ++ author
    ++ "\n * @date " ++ generatedAt
    ++ "\n */"

end Scaffold.Javadoc
