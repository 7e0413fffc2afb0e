import IfaceMonitor.Decimal.Reading
import IfaceMonitor.Text.Blank

/-!
The command line: a subcommand and its options, each with one value that follows it or is attached
by an equals sign. Options that are not given can be set by environment variables. A value is
examined when the next option begins or the line ends, which decides between several mistakes.
-/

namespace IfaceMonitor.CommandLine

inductive UsageError
  | helpRequested
  | versionRequested
  | subcommandMissing
  | unknownSubcommand
  | unknownArgument
  | missingValue
  | invalidValue
  | repeatedOption
  | unexpectedValue
  deriving DecidableEq

inductive Setting
  | interfaces
  | node
  | kernelStatistics
  | rules
  | services
  | params
  | stateFile
  | timestamp
  deriving DecidableEq

inductive Value
  | path (path : String)
  | nodeFile (node path : String)
  | time (seconds : Float)

namespace Setting

def name : Setting → String
  | interfaces => "interfaces"
  | node => "node"
  | kernelStatistics => "net-dev"
  | rules => "rules"
  | services => "services"
  | params => "params"
  | stateFile => "state-file"
  | timestamp => "timestamp"

def environmentName? : Setting → Option String
  | interfaces => some "IFMON_INTERFACES"
  | node => none
  | kernelStatistics => some "IFMON_NET_DEV"
  | rules => some "IFMON_RULES"
  | services => some "IFMON_SERVICES"
  | params => some "IFMON_PARAMS"
  | stateFile => some "IFMON_STATE_FILE"
  | timestamp => none

def ofDiscover : List Setting := [interfaces, node, kernelStatistics, rules]

def ofCheck : List Setting :=
  [interfaces, node, kernelStatistics, rules, services, params, stateFile, timestamp]

def isRepeatable (s : Setting) : Bool :=
  s = node

/-- A node has the form `NAME=PATH`, neither part empty. -/
def readNode? (text : String) : Option Value :=
  match Text.cutAt? (· == '=') text.toList with
  | some (c :: name, d :: path) => some
      (.nodeFile (String.ofList (c :: name)) (String.ofList (d :: path)))
  | _ => none

def readValue (s : Setting) (text : String) : Except UsageError Value :=
  match s with
  | node =>
    match readNode? text with
    | some value => .ok value
    | none => .error .invalidValue
  | timestamp =>
    match Decimal.readDouble? text with
    | some seconds => .ok (.time seconds)
    | none => .error .invalidValue
  | _ => if text.isEmpty then .error .missingValue else .ok (.path text)

end Setting

abbrev Given := List (Setting × Value)

namespace Given

def has (given : Given) (s : Setting) : Bool :=
  given.any fun g => g.1 = s

def add (given : Given) (s : Setting) (text : String) : Except UsageError Given :=
  if given.has s && !s.isRepeatable then .error .repeatedOption
  else do return given ++ [(s, ← s.readValue text)]

def path? (given : Given) (s : Setting) : Option String :=
  given.findSome? fun
    | (t, .path path) => if t = s then some path else none
    | _ => none

def nodes (given : Given) : List (String × String) :=
  given.filterMap fun
    | (_, .nodeFile node path) => some (node, path)
    | _ => none

def time? (given : Given) : Option Float :=
  given.findSome? fun
    | (_, .time seconds) => some seconds
    | _ => none

end Given

inductive Argument
  | separator
  | long (name : String) (value : Option String)
  | short (letter : Char)
  | plain (text : String)

def Argument.ofText (text : String) : Argument :=
  match text.toList with
  | ['-', '-'] => separator
  | '-' :: '-' :: rest =>
    match Text.cutAt? (· == '=') rest with
    | some (name, value) => long (String.ofList name) (some (String.ofList value))
    | none => long (String.ofList rest) none
  | '-' :: c :: _ => short c
  | _ => plain text

structure Progress where
  given : Given
  waiting : Option (Setting × Option String)

def Progress.settle (p : Progress) : Except UsageError Given :=
  match p.waiting with
  | none => .ok p.given
  | some (_, none) => .error .missingValue
  | some (s, some text) => p.given.add s text

def readOptions (known : List Setting) : Progress → List Argument → Except UsageError Given
  | p, [] => p.settle
  | p, .separator :: rest => if rest.isEmpty then p.settle else .error .unknownArgument
  | p, .long name value :: rest =>
    if name == "help" then
      if value.isSome then .error .unexpectedValue else do
        let _ ← p.settle
        .error .helpRequested
    else
      match known.find? (·.name == name), value with
      | none, _ => .error .unknownArgument
      | some s, none => do readOptions known ⟨← p.settle, some (s, none)⟩ rest
      | some s, some text => do readOptions known ⟨← (← p.settle).add s text, none⟩ rest
  | p, .short letter :: _ =>
    if letter == 'h' then do
      let _ ← p.settle
      .error .helpRequested
    else .error .unknownArgument
  | p, .plain text :: rest =>
    match p.waiting with
    | some (s, none) => readOptions known { p with waiting := some (s, some text) } rest
    | _ => .error .unknownArgument

def addVariables (environment : String → Option String) :
    List Setting → Given → Except UsageError Given
  | [], given => .ok given
  | s :: rest, given =>
    match if given.has s then none else s.environmentName?.bind environment with
    | none => addVariables environment rest given
    | some text => do addVariables environment rest (← given.add s text)

/-- Where the interfaces come from. A section goes before node sections, and these before kernel
statistics. -/
structure SectionSource where
  interfaces : Option String
  nodes : List (String × String)
  kernelStatistics : String

inductive Command
  | discover (source : SectionSource) (rules : Option String)
  | check (source : SectionSource) (rules services params : Option String) (stateFile : String)
      (time : Option Float)

def standardStatistics : String := "/proc/net/dev"

def standardStateFile : String := "ifmon-state.json"

def Given.source (given : Given) : SectionSource where
  interfaces := given.path? .interfaces
  nodes := given.nodes
  kernelStatistics := (given.path? .kernelStatistics).getD standardStatistics

def readGiven (known : List Setting) (environment : String → Option String)
    (arguments : List String) :
    Except UsageError Given := do
  let given ← readOptions known ⟨[], none⟩ (arguments.map Argument.ofText)
  addVariables environment known given

def subcommands : List String := ["discover", "check", "help"]

/-- After a separator a subcommand is not recognised. -/
def afterSeparator : List String → UsageError
  | [] => .subcommandMissing
  | name :: _ => if subcommands.contains name then .unknownArgument else .unknownSubcommand

def helpFor : List String → UsageError
  | [] => .helpRequested
  | name :: rest =>
    if subcommands.contains name && rest.isEmpty then .helpRequested else .unknownSubcommand

def parse (environment : String → Option String) : List String → Except UsageError Command
  | [] => .error .subcommandMissing
  | name :: rest =>
    match Argument.ofText name with
    | .separator => .error (afterSeparator rest)
    | .long name value =>
      if name == "help" || name == "version" then
        .error (if value.isSome then .unexpectedValue
          else if name == "help" then .helpRequested else .versionRequested)
      else .error .unknownArgument
    | .short letter =>
      .error (if letter == 'h' then .helpRequested else if letter ==
        'V' then .versionRequested else .unknownArgument)
    | .plain name =>
      if name == "discover" then do
        let given ← readGiven Setting.ofDiscover environment rest
        return .discover given.source (given.path? .rules)
      else if name == "check" then do
        let given ← readGiven Setting.ofCheck environment rest
        return .check given.source (given.path? .rules) (given.path? .services)
          (given.path? .params)
          ((given.path? .stateFile).getD standardStateFile) given.time?
      else if name == "help" then .error (helpFor rest)
      else .error .unknownSubcommand

end IfaceMonitor.CommandLine
