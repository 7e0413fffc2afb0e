import IfaceMonitor.CommandLine.Run
import Std.Time.DateTime.Timestamp

namespace IfaceMonitor.CommandLine

def UsageError.text : UsageError → String
  | helpRequested =>
    "usage: ifmon discover|check [--interfaces FILE] [--node NAME=FILE]... [--net-dev FILE] " ++
      "[--rules FILE] [--services FILE] [--params FILE] [--state-file FILE] [--timestamp SECONDS]"
  | versionRequested => "ifmon 0.1.0"
  | subcommandMissing => "a subcommand is required: discover or check"
  | unknownSubcommand => "unrecognized subcommand"
  | unknownArgument => "unexpected argument"
  | missingValue => "a value is required"
  | invalidValue => "invalid value"
  | repeatedOption => "an option cannot be used multiple times"
  | unexpectedValue => "unexpected value"

def RunError.text : RunError → String
  | inputOpen => "failed to open input file"
  | inputParse => "failed to parse input file"
  | sourceOpen => "failed to open interface statistics"
  | sourceRead => "failed to read interface statistics"
  | sourceRecord cause => "invalid interface record: " ++ cause.message
  | stateOpen => "failed to open value store"
  | stateRead => "failed to read value store"
  | stateDecode => "failed to decode value store"
  | stateWrite => "failed to write value store"
  | config cause => "invalid configuration: " ++ cause.message
  | timeMissing => "no check time"

/-- The system's code for reading a directory like a file. -/
def directoryCode : UInt32 := 21

def systemFiles : FileAccess IO where
  read path := do
    try
      return .bytes (← IO.FS.readBinFile path)
    catch
      | .noFileOrDirectory .. => return .missing
      | .inappropriateType _ code _ =>
        return if code == directoryCode then .unreadable else .refused
      | _ => return .refused
  replace path content := do
    try
      IO.FS.writeFile (path ++ ".tmp") content
      IO.FS.rename (path ++ ".tmp") path
      return true
    catch _ => return false

def currentTime : IO Float := do
  let since := (← Std.Time.Timestamp.now).val
  return Float.ofInt since.second.val + Float.ofInt since.nano.val / 1000000000.0

end IfaceMonitor.CommandLine

open IfaceMonitor.CommandLine in
def main (arguments : List String) : IO UInt32 := do
  let environment ← (Setting.ofCheck.filterMap Setting.environmentName?).mapM fun name => do
    return (name, ← IO.getEnv name)
  match parse (fun name => (environment.lookup name).join) arguments with
  | .error mistake => do
    IO.eprintln mistake.text
    return 2
  | .ok command => do
    match ← (run systemFiles (some (← currentTime)) command).run with
    | .ok output => do
      IO.print output
      return 0
    | .error cause => do
      IO.eprintln cause.text
      return 1
