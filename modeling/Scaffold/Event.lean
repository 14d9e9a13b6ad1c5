import Scaffold.Table

/-!
What a run reports while it goes on.
-/

namespace Scaffold

inductive Level where
  | info
  | debug
deriving DecidableEq, Repr

inductive Event where
  | statementSent (statement : String)
  | tableRead (table : Table)
  | columnsRead (count : Nat) (table : String)
  | fileWritten (className path : String)
deriving DecidableEq, Repr

namespace Event

/-- Statements and counts are for those who look for a fault. -/
def level : Event → Level
  | statementSent _ => .debug
  | tableRead _ => .info
  | columnsRead .. => .debug
  | fileWritten .. => .info

def message : Event → String
  | statementSent statement => statement
  | tableRead table =>
    "Table " ++ table.name ++ " (" ++ table.rows.elim "unknown" toString ++ " rows, collation "
      ++ table.collation ++ ")"
  | columnsRead count table => "Read " ++ toString count ++ " columns from " ++ table
  | fileWritten className path => className ++ ": " ++ path

end Event
end Scaffold
