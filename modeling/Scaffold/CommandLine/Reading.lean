import Scaffold.CommandLine.Token

/-!
Reading a command line from left to right.  An option whose value did not come with it waits for the
next argument, and it is complete when another option begins or the line ends.  The first fault
found decides; a fault in the form of an argument is found before one in the option that waits.
-/

namespace Scaffold.CommandLine

structure Reading where
  given : List (Parameter × String) := []
  dryRun : Bool := false
  /-- The option that waits to be complete, with its value if that has come. -/
  waiting : Option (Parameter × Option String) := none
deriving Repr

namespace Reading

def given? (reading : Reading) (parameter : Parameter) : Option String :=
  reading.given.lookup parameter

def value (reading : Reading) (parameter : Parameter) : String :=
  (reading.given? parameter).getD parameter.defaultValue

def give (reading : Reading) (parameter : Parameter) (value : String) : Except Halt Reading :=
  (parameter.check value).map fun _ =>
    { reading with given := (parameter, value) :: reading.given }

/-- An option is complete with its value, unless it is complete already. -/
def complete (reading : Reading) (parameter : Parameter) (value : String) : Except Halt Reading :=
  if (reading.given? parameter).isSome then .error .repeated else reading.give parameter value

def settle (reading : Reading) : Except Halt Reading :=
  match reading.waiting with
  | none => .ok reading
  | some (_, none) => .error .missingValue
  | some (parameter, some value) => { reading with waiting := none }.complete parameter value

/-- Carries a request out once the option that waits is complete. -/
def carryOut (reading : Reading) (request : Request) (value : Option String) :
    Except Halt Reading :=
  match reading.settle with
  | .error halt => .error halt
  | .ok settled =>
    match request, value with
    | .set parameter, some value => settled.complete parameter value
    | .set parameter, none => .ok { settled with waiting := some (parameter, none) }
    | .dryRun, _ => if settled.dryRun then .error .repeated else .ok { settled with dryRun := true }
    | .help, _ => .error .help
    | .version, _ => .error .version

def take (reading : Reading) : Token → Except Halt Reading
  | .plain text =>
    match reading.waiting with
    | some (parameter, none) => .ok { reading with waiting := some (parameter, some text) }
    | _ => .error .unknownArgument
  | .long name value =>
    match Request.ofName? name with
    | none => .error .unknownArgument
    | some request =>
      if value.isSome && !request.takesValue then .error .unexpectedValue
      else reading.carryOut request value
  | .short letter rest =>
    match Request.ofLetter? letter with
    | none => .error .unknownArgument
    | some request => reading.carryOut request (attachedValue? rest)

/-- Reads arguments to the end of the line.  Two dashes alone end the options, and nothing may
follow them. -/
def takeAll (reading : Reading) : List String → Except Halt Reading
  | [] => reading.settle
  | text :: rest =>
    if text = "--" then
      if rest = [] then reading.settle else .error .unknownArgument
    else
      match reading.take (.ofText text) with
      | .error halt => .error halt
      | .ok taken => taken.takeAll rest

/-- Takes values from the environment for those parameters that have none yet. -/
def fillFrom (reading : Reading) (environment : String → Option String) :
    List Parameter → Except Halt Reading
  | [] => .ok reading
  | parameter :: rest =>
    if (reading.given? parameter).isSome then reading.fillFrom environment rest
    else
      match environment parameter.variableName with
      | none => reading.fillFrom environment rest
      | some value =>
        match reading.give parameter value with
        | .error halt => .error halt
        | .ok filled => filled.fillFrom environment rest

end Reading

/-- The settings that a command line asks for in an environment: a parameter's value is that of its
option, else that of its variable, else its default. -/
def read (arguments : List String) (environment : String → Option String) : Except Halt Config := do
  let line ← ({} : Reading).takeAll arguments
  let filled ← line.fillFrom environment Parameter.all
  configOf filled.value filled.dryRun

end Scaffold.CommandLine
