import Scaffold.IoError
import Scaffold.Text.Quoted

/-!
What can go wrong in a run, by cause.  `message` is the one place where the causes are put in words.
-/

namespace Scaffold

inductive DatabaseError where
  | rowNotFound
  | poolTimedOut
  | poolClosed
  | workerCrashed
  | columnNotFound (column : String)
  | protocol (detail : String)
  | io (cause : IoError)
deriving DecidableEq, Repr

def DatabaseError.message : DatabaseError → String
  | rowNotFound => "no rows returned by a query that expected to return at least one row"
  | poolTimedOut => "pool timed out while waiting for an open connection"
  | poolClosed => "attempted to acquire a connection on a closed pool"
  | workerCrashed => "attempted to communicate with a crashed background worker"
  | columnNotFound column => "no column found for name: " ++ column
  | protocol detail => "encountered unexpected or invalid data: " ++ detail
  | io cause => "error communicating with database: " ++ cause.message

inductive Error where
  | database (cause : DatabaseError)
  | tableNotFound (table : String)
  | invalidTableName (table : String)
  /-- The file or directory at `path` could not be made or written. -/
  | filesystem (path : String) (cause : IoError)
  | configuration (fault : String)
deriving DecidableEq, Repr

namespace Error

def message : Error → String
  | database cause => "Database error: " ++ cause.message
  | tableNotFound table => "Table not found: " ++ table
  | invalidTableName table => "Invalid table name: " ++ Text.quote table
  | filesystem path cause => "Filesystem error at " ++ path ++ ": " ++ cause.message
  | configuration fault => "Configuration error: " ++ fault

/-- The text of the failure underneath, for errors that have one. -/
def causeText? : Error → Option String
  | database cause => some cause.message
  | filesystem _ cause => some cause.message
  | _ => none

end Error
end Scaffold
