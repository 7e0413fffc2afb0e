import IfaceMonitor.Check.Item
import IfaceMonitor.Discovery.Service

namespace IfaceMonitor

structure ItemReport where
  item : String
  state : State
  entries : List Entry

def ItemReport.encode (r : ItemReport) : Json :=
  .obj [("item", .str r.item), ("state", r.state.encode),
    ("entries", Json.ofList Entry.encode r.entries)]

def ItemReport.ofEntries (item : String) (entries : List Entry) : ItemReport :=
  { item, state := overallState entries, entries }

namespace HostStore

def checkEach (settings : CheckSettings) (interfaces : Section) (time : Float) :
    List Service → HostStore → Except ConfigError (List ItemReport × HostStore)
  | [], host => .ok ([], host)
  | service :: rest, host => do
    let own := settings.withDiscovered service.parameters
    let (entries, store) ← checkItem none service.name own interfaces time
      (host.samplesOf service.name)
    let (reports, host) ← checkEach settings interfaces time rest (host.insert service.name store)
    return (.ofEntries service.name entries :: reports, host)

def cycle (services : List Service) (settings : CheckSettings) (interfaces : Section) (time : Float)
    (host : HostStore) : Except ConfigError (List ItemReport × HostStore) := do
  let (reports, host) ← checkEach settings interfaces time services host
  return (reports, host.retain (services.map (·.name)))

end HostStore

/-- Where samples are kept between cycles; a store that was never persisted loads as empty. -/
structure Persister (m : Type → Type) (ε : Type) where
  load : m (Except ε HostStore)
  persist : HostStore → m (Except ε Unit)

inductive CycleError (ε : Type)
  | config (cause : ConfigError)
  | storage (cause : ε)

def runCycle [Monad m] (persister : Persister m ε) (services : List Service)
    (settings : CheckSettings) (interfaces : Section) (time : Float) :
    m (Except (CycleError ε) (List ItemReport)) := do
  match ← persister.load with
  | .error cause => return .error (.storage cause)
  | .ok host =>
    match host.cycle services settings interfaces time with
    | .error cause => return .error (.config cause)
    | .ok (reports, host) =>
      match ← persister.persist host with
      | .error cause => return .error (.storage cause)
      | .ok () => return .ok reports

end IfaceMonitor
