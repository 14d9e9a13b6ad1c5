import Scaffold.CommandLine.Parameter

/-!
Arguments of a command line, by their form: a long name with or without a value, a letter with what
is written after it, or plain text.
-/

namespace Scaffold.CommandLine

inductive Request where
  | set (parameter : Parameter)
  | dryRun
  | help
  | version
deriving DecidableEq, Repr

namespace Request

def ofName? (name : String) : Option Request :=
  if name = "dry-run" then some dryRun
  else if name = "help" then some help
  else if name = "version" then some version
  else (Parameter.all.find? (·.longName = name)).map set

def ofLetter? (letter : Char) : Option Request :=
  if letter = 'V' then some version
  else (Parameter.all.find? (·.letter? = some letter)).map set

def takesValue : Request → Bool
  | set _ => true
  | dryRun | help | version => false

theorem ofName?_longName (parameter : Parameter) :
    ofName? parameter.longName = some (set parameter) := by
  cases parameter <;> decide

end Request

inductive Token where
  /-- Two dashes and a name, perhaps with an equals sign and a value. -/
  | long (name : String) (value : Option String)
  /-- One dash, a letter, and the rest of the argument. -/
  | short (letter : Char) (rest : String)
  /-- An argument without a dash in front, or only a dash. -/
  | plain (text : String)
deriving DecidableEq, Repr

def Token.ofText (text : String) : Token :=
  match text.toList with
  | '-' :: '-' :: rest =>
    match rest.dropWhile (· ≠ '=') with
    | [] => .long (.ofList rest) none
    | _ :: value => .long (.ofList (rest.takeWhile (· ≠ '='))) (some (.ofList value))
  | '-' :: letter :: rest => .short letter (.ofList rest)
  | _ => .plain text

/-- The value written right after a letter; one equals sign between them does not count. -/
def attachedValue? (rest : String) : Option String :=
  match rest.toList with
  | [] => none
  | '=' :: value => some (.ofList value)
  | _ => some rest

end Scaffold.CommandLine
