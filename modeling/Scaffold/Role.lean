import Scaffold.Identifier

/-!
The seven classes generated for a table, by their role in a layered application: what their names
end in, and in which layer they live.
-/

namespace Scaffold

inductive Role where
  /-- The persistent object: one row of the table. -/
  | po
  /-- Access to the table's rows. -/
  | mapper
  /-- Storage of entities, by way of the mapper. -/
  | repository
  /-- Creation of entities. -/
  | factory
  /-- The object of the business domain. -/
  | entity
  /-- The use cases, by way of the repository and the factory. -/
  | appService
  /-- Conversion between entity and persistent object. -/
  | assembler
deriving DecidableEq, Repr

namespace Role

def all : List Role := [po, mapper, repository, factory, entity, appService, assembler]

theorem mem_all (role : Role) : role ∈ all := by
  cases role <;> decide

/-- What names of the role end in; the entity carries the bare name. -/
def suffix : Role → String
  | po => "Po"
  | mapper => "Mapper"
  | repository => "Repository"
  | factory => "Factory"
  | entity => ""
  | appService => "AppService"
  | assembler => "Assembler"

/-- The segments below the domain, in directories as in packages. -/
def layers : Role → List String
  | po => ["infrastructure", "persistence", "po"]
  | mapper => ["infrastructure", "persistence", "mapper"]
  | repository => ["infrastructure", "repository"]
  | factory => ["domain", "factory"]
  | entity => ["domain", "entity"]
  | appService => ["application", "service"]
  | assembler => ["application", "assembler"]

/-- The layers of a role are its own. -/
theorem layers_injective {first second : Role} (same : first.layers = second.layers) :
    first = second := by
  revert same
  cases first <;> cases second <;> decide

def className (role : Role) (table : String) : String :=
  Identifier.classStem table ++ role.suffix

def memberName (role : Role) (table : String) : String :=
  Identifier.memberStem table ++ role.suffix

theorem capitalChars_suffix (role : Role) :
    Identifier.capitalChars role.suffix.toList = role.suffix.toList := by
  cases role <;> decide

/-- The class of a member is named like the member, with a capital. -/
theorem capitalize_memberName (role : Role) (table : String) :
    Identifier.capitalize (role.memberName table) = role.className table := by
  rw [← String.toList_inj, Identifier.toList_capitalize, memberName, className,
    Identifier.classStem, String.toList_append, String.toList_append,
    Identifier.toList_capitalize]
  exact Identifier.capitalChars_append role.capitalChars_suffix

/-- The roles whose classes a class of this role works with. -/
def companions : Role → List Role
  | po | entity => []
  | mapper => [po]
  | repository => [mapper]
  | factory => [entity]
  | appService => [factory, repository]
  | assembler => [entity, po]

end Role
end Scaffold
