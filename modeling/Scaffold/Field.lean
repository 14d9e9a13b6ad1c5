import Scaffold.Identifier
import Scaffold.JavaType
import Scaffold.Table

/-!
Fields of the persistent object and of the entity, one for each column.
-/

namespace Scaffold

structure Field where
  javaType : String
  name : String
  comment : String := ""
  /-- What has to be imported for the type. -/
  qualifier : Option String := none
  isPrimaryKey : Bool := false
deriving DecidableEq, Repr

namespace Field

def ofColumn (column : Column) : Field where
  javaType := (JavaType.ofSqlType column.sqlType).name
  name := Identifier.camelCase column.field
  comment := column.comment
  qualifier := (JavaType.ofSqlType column.sqlType).qualifier
  isPrimaryKey := decide column.IsPrimaryKey

/-- Names of fields that every generated class has from its base class. -/
def inherited : List String := ["id", "ctime", "mtime"]

/-- The field is not inherited, so that its class has to declare it. -/
def IsDeclared (field : Field) : Prop := field.name ∉ inherited

instance (field : Field) : Decidable field.IsDeclared :=
  inferInstanceAs (Decidable (_ ∉ _))

end Field
end Scaffold
