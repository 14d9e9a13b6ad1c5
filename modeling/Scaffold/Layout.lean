import Scaffold.Path
import Scaffold.Role

/-!
Where a generated class lives: the package it declares and the file it is written to.  Both go from
the domain down the role's layers.
-/

namespace Scaffold.Layout

/-- The package of a role's class; an empty base package leaves no trace. -/
def package (basePackage domain : String) (role : Role) : String :=
  ".".intercalate ((if basePackage = "" then [] else [basePackage]) ++ domain :: role.layers)

/-- The file of a role's class, below the output root. -/
def filePath (domain : String) (role : Role) (className : String) : String :=
  Path.push (Path.extend domain role.layers) (className ++ ".java")

end Scaffold.Layout
