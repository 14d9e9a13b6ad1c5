import Scaffold.CommandLine.Reading
import Scaffold.Run
import Std.Time.Zoned

/-!
The command line program.  It carries no database driver, so its connection is a closed one: once
the command line and the settings are accepted, a run ends with the error of a closed connection.
-/

namespace Scaffold.Main

/-- The present moment by the clock of the place, or at the zero meridian where no time zone is
set. -/
def now : IO Moment := do
  let present ← Std.Time.Timestamp.now
  let zone ← try
      let rules ← Std.Time.Database.defaultGetLocalZoneRules
      pure (rules.findLocalTimeTypeForTimestamp present).getTimeZone
    catch _ => pure .UTC
  let time := Std.Time.DateTime.ofTimestampWithZone present zone
  return {
    year := time.year.toInt
    month := time.month.toNat
    day := time.day.toNat
    hour := time.hour.toNat
    minute := time.minute.toNat
    second := time.second.toNat
    nano := time.nanosecond.toNat }

def haltText : CommandLine.Halt → String
  | .help => "options: " ++ " ".intercalate
      (CommandLine.Parameter.all.map fun parameter => "--" ++ parameter.longName)
      ++ " --dry-run --help --version"
  | .version => "0.1.0"
  | .unknownArgument => "unknown argument"
  | .repeated => "option given twice"
  | .missingValue => "option without value"
  | .unexpectedValue => "flag with value"
  | .emptyPath => "empty path"
  | .badPort => "not a port number"

def report (event : Event) : IO Unit :=
  let level := match event.level with
    | .info => "INFO"
    | .debug => "DEBUG"
  IO.eprintln (level ++ " " ++ event.message)

def run (config : Config) : IO UInt32 := do
  let outcome := Run.generate (.ofConnection .closed) config.settings (← now) (.empty [])
  outcome.events.forM report
  IO.print outcome.printed
  match outcome.result with
  | .ok _ => return 0
  | .error error =>
    IO.eprintln ("Error: " ++ error.message)
    return 1

end Scaffold.Main

def main (arguments : List String) : IO UInt32 := do
  let environment ← Scaffold.CommandLine.Parameter.all.mapM fun parameter => do
    return (parameter.variableName, ← IO.getEnv parameter.variableName)
  match Scaffold.CommandLine.read arguments fun name => (environment.lookup name).join with
  | .ok config =>
    match config.check with
    | .ok () => Scaffold.Main.run config
    | .error error =>
      IO.eprintln ("Error: " ++ error.message)
      return 1
  | .error .help =>
    IO.println (Scaffold.Main.haltText .help)
    return 0
  | .error .version =>
    IO.println (Scaffold.Main.haltText .version)
    return 0
  | .error halt =>
    IO.eprintln ("error: " ++ Scaffold.Main.haltText halt)
    return 2
