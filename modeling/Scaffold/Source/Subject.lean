import Scaffold.Field.Declarations
import Scaffold.Field.Imports
import Scaffold.Layout
import Scaffold.Settings
import Scaffold.Source.Javadoc

/-!
The subject of a batch of files, and what each file can say about it.
-/

namespace Scaffold

/-- The table that files are generated for, with all that goes into them. -/
structure Subject where
  table : Table
  fields : List Field
  settings : Settings
  /-- When the files were generated, as they say it. -/
  generatedAt : String

namespace Subject

variable (subject : Subject) (role : Role)

def className : String := role.className subject.table.name

def memberName : String := role.memberName subject.table.name

def package : String :=
  Layout.package subject.settings.basePackage subject.settings.domain role

/-- The name by which other packages import the role's class. -/
def qualifiedName : String := subject.package role ++ "." ++ subject.className role

def javadoc : String :=
  Javadoc.header (subject.className role) subject.table subject.settings.author subject.generatedAt

def importLines : String := Field.importLines subject.fields

def declarationBlock : String := Field.declarationBlock subject.fields

end Subject
end Scaffold
