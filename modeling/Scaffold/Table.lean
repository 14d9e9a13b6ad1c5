/-!
Tables and columns as a database describes them.
-/

namespace Scaffold

structure Table where
  name : String
  comment : String := ""
  collation : String := ""
  /-- The estimated number of rows; a view has none. -/
  rows : Option Nat := none
deriving DecidableEq, Repr

/-- A name that can stand in a statement without quoting: ASCII letters, digits, `_` and `$`. -/
def Table.IsName (name : String) : Prop :=
  name ≠ "" ∧ ∀ c ∈ name.toList, c.isAlphanum = true ∨ c = '_' ∨ c = '$'

instance (name : String) : Decidable (Table.IsName name) :=
  -- Decided over the name alone: there are finitely many characters, too many to go through.
  haveI : Decidable (∀ c ∈ name.toList, c.isAlphanum = true ∨ c = '_' ∨ c = '$') :=
    List.decidableBAll _ _
  inferInstanceAs (Decidable (_ ∧ _))

/-- A column, each property as the database writes it. -/
structure Column where
  field : String
  sqlType : String
  nullable : String := "YES"
  key : String := ""
  comment : String := ""
  defaultValue : Option String := none
  extra : String := ""
deriving DecidableEq, Repr

namespace Column

def withComment (column : Column) (comment : String) : Column :=
  { column with comment }

def withKey (column : Column) (key : String) : Column :=
  { column with key }

/-- The column as its table's primary key, which holds no nulls. -/
def asPrimaryKey (column : Column) : Column :=
  { column with key := "PRI", nullable := "NO" }

/-- The key mark is `PRI`, in either case. -/
def IsPrimaryKey (column : Column) : Prop :=
  column.key.toList.map Char.toLower = "pri".toList

instance (column : Column) : Decidable column.IsPrimaryKey :=
  inferInstanceAs (Decidable (_ = _))

theorem isPrimaryKey_asPrimaryKey (column : Column) : column.asPrimaryKey.IsPrimaryKey := by
  simp [IsPrimaryKey, asPrimaryKey]

end Column
end Scaffold
