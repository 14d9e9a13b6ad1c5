import Scaffold.Error
import Scaffold.Event

/-!
Reading a table's description, from a server or from a description at hand.  Statements are built
only from names that need no quoting.
-/

namespace Scaffold.Schema

/-- The answer to a question about the schema, with the reports made on the way. -/
structure Answer (Found : Type) where
  result : Except Error Found
  events : List Event := []

structure Reader where
  status : String → Answer Table
  columns : String → Answer (List Column)

def Reader.ofTable (table : Table) (columns : List Column) : Reader where
  status name := ⟨if table.name = name then .ok table else .error (.tableNotFound name), []⟩
  columns name := ⟨if table.name = name then .ok columns else .error (.tableNotFound name), []⟩

def statusStatement (table : String) : String :=
  "SHOW TABLE STATUS WHERE Name = '" ++ table ++ "'"

def columnsStatement (table : String) : String :=
  "SHOW FULL COLUMNS FROM `" ++ table ++ "`"

/-- A row of a reply: what it holds under a heading, which may be nothing, or why that cannot be
read. -/
structure Row where
  text? : (heading : String) → Except DatabaseError (Option String)
  number? : (heading : String) → Except DatabaseError (Option Nat)

/-- Where a row holds no text, the text is empty. -/
def Row.text (row : Row) (heading : String) : Except DatabaseError String :=
  (row.text? heading).map (·.getD "")

def Row.toTable (row : Row) : Except DatabaseError Table := do
  let name ← row.text "Name"
  let rows ← row.number? "Rows"
  let collation ← row.text "Collation"
  let comment ← row.text "Comment"
  return { name, comment, collation, rows }

def Row.toColumn (row : Row) : Except DatabaseError Column := do
  let field ← row.text "Field"
  let sqlType ← row.text "Type"
  let nullable ← row.text "Null"
  let key ← row.text "Key"
  let comment ← row.text "Comment"
  let defaultValue ← row.text? "Default"
  let extra ← row.text "Extra"
  return { field, sqlType, nullable, key, comment, defaultValue, extra }

structure Connection where
  firstRow? : (statement : String) → Except DatabaseError (Option Row)
  rows : (statement : String) → Except DatabaseError (List Row)

/-- A connection that was closed before it was used. -/
def Connection.closed : Connection where
  firstRow? _ := .error .poolClosed
  rows _ := .error .poolClosed

def tableOfReply (name : String) : Except DatabaseError (Option Row) → Except Error Table
  | .error cause => .error (.database cause)
  | .ok none => .error (.tableNotFound name)
  | .ok (some row) => row.toTable.mapError .database

def columnsOfReply (reply : Except DatabaseError (List Row)) : Except Error (List Column) :=
  (reply.bind (·.mapM Row.toColumn)).mapError .database

/-- Asks a server, once the name is known to need no quoting. -/
def Reader.ofConnection (connection : Connection) : Reader where
  status name :=
    if Table.IsName name then
      { events := [.statementSent (statusStatement name)]
        result := tableOfReply name (connection.firstRow? (statusStatement name)) }
    else { result := .error (.invalidTableName name) }
  columns name :=
    if Table.IsName name then
      { events := [.statementSent (columnsStatement name)]
        result := columnsOfReply (connection.rows (columnsStatement name)) }
    else { result := .error (.invalidTableName name) }

end Scaffold.Schema
