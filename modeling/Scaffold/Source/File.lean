import Scaffold.Moment
import Scaffold.Source.Skeleton
import Scaffold.Source.Subject

/-!
Generated files: each role's skeleton with its slots filled from the subject.
-/

namespace Scaffold

structure SourceFile where
  role : Role
  className : String
  /-- Where the file goes, below the output root. -/
  path : String
  contents : String
deriving DecidableEq, Repr

def Role.slotStem : Role → String
  | po => "po"
  | mapper => "mapper"
  | repository => "repository"
  | factory => "factory"
  | entity => "entity"
  | appService => "appService"
  | assembler => "assembler"

/-- Classes of these roles hold the table's fields. -/
def Role.HasFields (role : Role) : Prop := role = po ∨ role = entity

instance (role : Role) : Decidable role.HasFields :=
  inferInstanceAs (Decidable (_ ∨ _))

namespace Subject

variable (subject : Subject) (role : Role)

def ownValues : List (String × String) := [
  ("package", subject.package role),
  ("basePackage", subject.settings.basePackage),
  ("className", subject.className role),
  ("tableName", subject.table.name),
  ("javadoc", subject.javadoc role)]

def companionValues (companion : Role) : List (String × String) := [
  (companion.slotStem ++ "Import", subject.qualifiedName companion),
  (companion.slotStem ++ "ClassName", subject.className companion),
  (companion.slotStem ++ "MemberName", subject.memberName companion)]

def fieldValues : List (String × String) := [
  ("imports", subject.importLines),
  ("fields", subject.declarationBlock)]

/-- All values for the role's skeleton, by the names of their slots. -/
def values : List (String × String) :=
  subject.ownValues role ++ role.companions.flatMap subject.companionValues
    ++ if role.HasFields then subject.fieldValues else []

def bindings : Bindings := .ofList (subject.values role)

def contents : String :=
  (Skeleton.ofRole role).render (subject.bindings role)

def file : SourceFile where
  role
  className := subject.className role
  path := Layout.filePath subject.settings.domain role (subject.className role)
  contents := subject.contents role

def files : List SourceFile := Role.all.map subject.file

end Subject

/-- The files for a table, all marked with the same moment. -/
def SourceFile.ofTable (settings : Settings) (moment : Moment) (table : Table)
    (fields : List Field) : List SourceFile :=
  Subject.files ⟨table, fields, settings, moment.text⟩

end Scaffold
