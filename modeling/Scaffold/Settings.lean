import Scaffold.Error
import Scaffold.Table
import Scaffold.Text.Blank

/-!
What a run is told: which table to generate from, where to put the files, and how to reach the
database.  `Config.check` says which settings are usable.
-/

namespace Scaffold

structure Settings where
  table : String := "tb_user"
  /-- The business domain, a segment of packages and directories. -/
  domain : String := "user"
  /-- The package above the domain. -/
  basePackage : String := "com.mahuafm.phoenix"
  /-- The directory above the domain. -/
  outputRoot : String := "ddd-code-gen"
  author : String := "ddd-gen-mysql"
  dryRun : Bool := false
deriving DecidableEq, Repr

structure Database where
  host : String := "localhost"
  port : UInt16 := 3306
  username : String := "root"
  password : String := "root"
  schema : String := "db_local"
deriving DecidableEq, Repr

/-- The database in a form for logs, which keeps the password back. -/
def Database.target (database : Database) : String :=
  database.username ++ "@" ++ database.host ++ ":" ++ toString database.port ++ "/"
    ++ database.schema

structure Config where
  database : Database := {}
  settings : Settings := {}
deriving DecidableEq, Repr

/-- Settings can be used when the table's name needs no quoting and neither the domain, the base
package nor the schema is missing; the first fault in this order is reported. -/
def Config.check (config : Config) : Except Error Unit :=
  if ¬ Table.IsName config.settings.table then
    .error (.invalidTableName config.settings.table)
  else if Text.IsBlank config.settings.domain then
    .error (.configuration "domain name must not be empty")
  else if Text.IsBlank config.settings.basePackage then
    .error (.configuration "base package must not be empty")
  else if config.database.schema = "" then
    .error (.configuration "schema name must not be empty")
  else .ok ()

theorem Config.check_eq_ok_iff (config : Config) :
    config.check = .ok () ↔ Table.IsName config.settings.table ∧
      ¬ Text.IsBlank config.settings.domain ∧ ¬ Text.IsBlank config.settings.basePackage ∧
      config.database.schema ≠ "" := by
  unfold check
  repeat' split
  all_goals simp_all

end Scaffold
