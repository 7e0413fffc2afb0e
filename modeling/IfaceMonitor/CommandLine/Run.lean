import IfaceMonitor.CommandLine.Arguments
import IfaceMonitor.CommandLine.Files
import IfaceMonitor.Cycle
import IfaceMonitor.Discovery.Search
import IfaceMonitor.Json.Parser
import IfaceMonitor.Json.Printer
import IfaceMonitor.KernelStatistics
import IfaceMonitor.Link.Node

/-!
The commands: `discover` prints the items of a section, `check` prints the reports of one cycle,
whose samples are kept in a state file. Inputs are read in a fixed order, so the first bad one
decides the error: the section, the services or rules, the parameters, the state.
-/

namespace IfaceMonitor.CommandLine

inductive RunError
  | inputOpen
  | inputParse
  | sourceOpen
  | sourceRead
  | sourceRecord (cause : InterfaceError)
  | stateOpen
  | stateRead
  | stateDecode
  | stateWrite
  | config (cause : ConfigError)
  | timeMissing

def decodeText (decode : Json → Decoded α) (content : ByteArray) : Option α := do
  let text ← String.fromUTF8? content
  let value ← Json.parse? text
  (decode value).toOption

section

variable {m : Type → Type} [Monad m] (files : FileAccess m)

def readRecord (decode : Json → Decoded α) (path : String) : ExceptT RunError m α := do
  match ← files.read path with
  | .missing => throw .inputOpen
  | .refused => throw .inputOpen
  | .unreadable => throw .inputParse
  | .bytes content =>
    match decodeText decode content with
    | some record => return record
    | none => throw .inputParse

def readStatistics (path : String) : ExceptT RunError m Section := do
  match ← files.read path with
  | .missing => throw .sourceOpen
  | .refused => throw .sourceOpen
  | .unreadable => throw .sourceRead
  | .bytes content =>
    match String.fromUTF8? content with
    | none => throw .sourceRead
    | some text =>
      match KernelStatistics.parse text with
      | .ok interfaces => return interfaces
      | .error cause => throw (.sourceRecord cause)

def readNodes : List (String × String) → ExceptT RunError m (List (String × Section))
  | [] => return []
  | (node, path) :: rest => do
    let interfaces ← readRecord files Section.decode path
    return (node, interfaces) :: (← readNodes rest)

def readSection (source : SectionSource) : ExceptT RunError m Section := do
  match source.interfaces with
  | some path => readRecord files Section.decode path
  | none =>
    if source.nodes.isEmpty then readStatistics files source.kernelStatistics
    else return .ofNodes (← readNodes files source.nodes)

def readRules (path : Option String) : ExceptT RunError m (List DiscoveryRule) := do
  let rules ←
    match path with
    | some path => readRecord files (Json.list DiscoveryRule.decode) path
    | none => pure [.standard]
  match checkRules rules with
  | .ok rules => return rules
  | .error cause => throw (.config cause)

def readServices (interfaces : Section) (rules services : Option String) :
    ExceptT RunError m (List Service) := do
  match services with
  | some path => readRecord files (Json.list Service.decode) path
  | none => return findServices (← readRules files rules) interfaces

def readParams (path : Option String) : ExceptT RunError m CheckSettings := do
  match path with
  | some path => readRecord files CheckSettings.decode path
  | none => return .standard

def loadState (path : String) : m (Except RunError HostStore) := do
  match ← files.read path with
  | .missing => return .ok .empty
  | .refused => return .error .stateOpen
  | .unreadable => return .error .stateRead
  | .bytes content =>
    match String.fromUTF8? content with
    | none => return .error .stateRead
    | some text =>
      match (Json.parse? text).bind fun value => (HostStore.decode value).toOption with
      | some host => return .ok host
      | none => return .error .stateDecode

def stateText (host : HostStore) : String :=
  host.encode.compact

def storeState (path : String) (host : HostStore) : m (Except RunError Unit) := do
  if ← files.replace path (stateText host) then return .ok () else return .error .stateWrite

def statePersister (path : String) : Persister m RunError where
  load := loadState files path
  persist := storeState files path

def outputText (encode : α → Json) (xs : List α) : String :=
  (Json.ofList encode xs).pretty ++ "\n"

/-- Runs a command and returns its output; `now` is the time of a check that is given none. -/
def run (now : Option Float) : Command → ExceptT RunError m String
  | .discover source rules => do
    let interfaces ← readSection files source
    let rules ← readRules files rules
    return outputText Service.encode (findServices rules interfaces)
  | .check source rules services params stateFile time => do
    let interfaces ← readSection files source
    let services ← readServices files interfaces rules services
    let params ← readParams files params
    match time <|> now with
    | none => throw .timeMissing
    | some time =>
      let cycle : m (Except (CycleError RunError) (List ItemReport)) :=
        runCycle (statePersister files stateFile) services params interfaces time
      match ← ExceptT.lift cycle with
      | .ok reports => return outputText ItemReport.encode reports
      | .error (.config cause) => throw (.config cause)
      | .error (.storage cause) => throw cause

end

end IfaceMonitor.CommandLine
