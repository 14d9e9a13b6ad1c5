import Scaffold.Settings

/-!
Parameters of a run.  Each has an option, written long or short, an environment variable that counts
when the option is not given, and a default.
-/

namespace Scaffold.CommandLine

/-- Why the command line is not carried out. -/
inductive Halt where
  | help
  | version
  | unknownArgument
  | repeated
  | missingValue
  /-- A value for a flag that takes none. -/
  | unexpectedValue
  | emptyPath
  | badPort
deriving DecidableEq, Repr

def decimal? (digits : List Char) : Option Nat :=
  if !digits.isEmpty && digits.all Char.isDigit then
    some (digits.foldl (fun number c => 10 * number + (c.toNat - '0'.toNat)) 0)
  else none

/-- The port that a text spells: a decimal number, perhaps with a sign, from 0 to 65535. -/
def port? (text : String) : Option UInt16 :=
  let number :=
    match text.toList with
    | '+' :: digits => decimal? digits
    | '-' :: digits => (decimal? digits).filter (· = 0)
    | digits => decimal? digits
  (number.filter (· < UInt16.size)).map .ofNat

inductive Parameter where
  | username
  | password
  | host
  | port
  | schema
  | table
  | domain
  | basePackage
  | outputRoot
  | author
deriving DecidableEq, Repr

namespace Parameter

/-- All parameters, in the order in which their variables are looked at. -/
def all : List Parameter :=
  [username, password, host, port, schema, table, domain, basePackage, outputRoot, author]

theorem mem_all (parameter : Parameter) : parameter ∈ all := by
  cases parameter <;> decide

/-- The option's name after two dashes. -/
def longName : Parameter → String
  | username => "username"
  | password => "password"
  | host => "host"
  | port => "port"
  | schema => "database"
  | table => "table"
  | domain => "domain"
  | basePackage => "base-package"
  | outputRoot => "output-root"
  | author => "author"

def letter? : Parameter → Option Char
  | username => some 'u'
  | password => some 'p'
  | host => some 'h'
  | port => some 'P'
  | schema => some 'd'
  | table => some 't'
  | domain => some 'D'
  | basePackage => none
  | outputRoot => some 'o'
  | author => none

def variableName : Parameter → String
  | username => "DDD_GEN_USERNAME"
  | password => "DDD_GEN_PASSWORD"
  | host => "DDD_GEN_HOST"
  | port => "DDD_GEN_PORT"
  | schema => "DDD_GEN_DATABASE"
  | table => "DDD_GEN_TABLE"
  | domain => "DDD_GEN_DOMAIN"
  | basePackage => "DDD_GEN_BASE_PACKAGE"
  | outputRoot => "DDD_GEN_OUTPUT"
  | author => "DDD_GEN_AUTHOR"

def defaultValue : Parameter → String
  | username => ({} : Database).username
  | password => ({} : Database).password
  | host => ({} : Database).host
  | port => toString ({} : Database).port
  | schema => ({} : Database).schema
  | table => ({} : Settings).table
  | domain => ({} : Settings).domain
  | basePackage => ({} : Settings).basePackage
  | outputRoot => ({} : Settings).outputRoot
  | author => ({} : Settings).author

/-- A value has to suit its parameter: a port is a number, and a path is not empty. -/
def check (parameter : Parameter) (value : String) : Except Halt Unit :=
  match parameter with
  | port => if (port? value).isSome then .ok () else .error .badPort
  | outputRoot => if value = "" then .error .emptyPath else .ok ()
  | _ => .ok ()

end Parameter

def configOf (value : Parameter → String) (dryRun : Bool) : Except Halt Config :=
  match port? (value .port) with
  | none => .error .badPort
  | some port => .ok {
      database := {
        host := value .host
        port
        username := value .username
        password := value .password
        schema := value .schema }
      settings := {
        table := value .table
        domain := value .domain
        basePackage := value .basePackage
        outputRoot := value .outputRoot
        author := value .author
        dryRun } }

end Scaffold.CommandLine
