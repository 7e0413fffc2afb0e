import IfaceMonitor.Check.Caption
import IfaceMonitor.Check.LinkState
import IfaceMonitor.Check.Lookup
import IfaceMonitor.Check.Packets
import IfaceMonitor.Check.Traffic
import IfaceMonitor.Group.Combined
import IfaceMonitor.Group.Listing

/-!
The check of one item in one cycle: identity, states and speed of the interface and, unless it is
down, its traffic and packet rates. On clusters the node with the most outgoing traffic is reported.
The store is passed through; a check fails only because of its configuration, and before anything is
measured.
-/

namespace IfaceMonitor

namespace Check

/-- A failed check names the first predictive rule; it needs a comparator. -/
def requireComparator (comparator : Option Comparator) (settings : CheckSettings) :
    Except ConfigError Unit :=
  if comparator.isSome then .ok ()
  else
    match settings.rulesInOrder.find? (·.levels.isPredictive) with
    | some rule => .error (.predictiveWithoutComparator rule.direction)
    | none => .ok ()

def nonZero (x : Option Float) : Option Float :=
  x.filter fun v => v != 0.0

def referenceSpeed (a : Attributes) (target : Option Float) : Option Float :=
  if a.speed != 0.0 then some (a.speed / 8.0) else (nonZero target).map fun s => s / 8.0

/-- Assumed speeds go before the speed of the interface. -/
def linkSpeeds (a : Attributes) (target : Option Float) (settings : CheckSettings) : LinkSpeeds :=
  let assumed := fun (speed : Option Float) =>
    (nonZero speed).map (fun s => s / 8.0) <|> referenceSpeed a target
  { input := assumed settings.assumedSpeedIn, output := assumed settings.assumedSpeedOut }

def trafficCheck (comparator : Option Comparator) (settings : CheckSettings)
    (speeds : ReferenceSpeeds) : TrafficCheck where
  speeds := speeds
  levels := mergedLevels settings.rulesInOrder speeds settings.unit
  unit := settings.unit
  assumedSpeed := settings.assumedSpeedIn.isSome || settings.assumedSpeedOut.isSome
  checksTotal := settings.checksTotal
  comparator := comparator

def gapEntries (gaps : List (Counter × RateGap)) : List Entry :=
  if gaps.isEmpty then []
  else
    let lines := gaps.map fun (counter, gap) => counter.name ++ ": " ++ gap.message
    [.result (.notice .ok
      ("Could not compute rates for the following counter(s):\n" ++ "\n".intercalate lines))]

def stateEntries (item : String) (settings : CheckSettings) (a : Attributes)
    (members : MemberListing) (useDiscovered : Bool) : List Entry :=
  let identity := a.caption (!members.isEmpty) item settings.infoFormat
  let states := a.statusResults settings.stateMapping (settings.expectedOperStates useDiscovered)
    (settings.expectedAdminStates useDiscovered)
  let address := if a.address.isEmpty then [] else [Finding.summary .ok ("MAC: " ++ a.address.text)]
  let listing := if members.isEmpty then [] else [Finding.summary .ok ("Members: " ++ members.text)]
  let results :=
    identity.toList ++ states ++ a.extraInfo.toList.map (Finding.summary .ok) ++
      address ++ listing ++
      [a.speedResult (settings.expectedSpeed useDiscovered)]
  results.map .result

def report (comparator : Option Comparator) (item : String) (settings : CheckSettings)
    (m : Measured) (members : MemberListing) (useDiscovered : Bool) :
    Except ConfigError (List Entry) := do
  let a := m.attributes
  let states := stateEntries item settings a members useDiscovered
  if a.operStatus.isDown then return states
  else
    let queue := a.outQueue.toList.map fun length => Entry.metric (.plain "outqlen" length)
    let speeds := (linkSpeeds a (settings.expectedSpeed useDiscovered) settings).references
    let traffic ← (trafficCheck comparator settings speeds).report m.rates
    return states ++ queue ++ traffic ++ Packets.report settings m.rates ++ gapEntries m.gaps

/-- Nothing is measured on an interface that is down, so nothing is stored for it either. -/
def measureUnlessDown (i : Interface) (time : Float) (averaging : Averaging) (store : SampleStore) :
    Measured × SampleStore :=
  if i.attributes.operStatus.isDown then (.unmeasured i.attributes, store)
  else Measured.measure i time averaging store

def outgoingTraffic? (entries : List Entry) : Option Float :=
  ((entries.filterMap Entry.metric?).find? (·.name == "out")).map (·.value)

structure Selection where
  fastest : Option (Float × List Entry)
  last : List Entry

namespace Selection

def none : Selection := ⟨.none, []⟩

def add (s : Selection) (entries : List Entry) : Selection :=
  match outgoingTraffic? entries with
  | some traffic =>
    if traffic > (s.fastest.map (·.1)).getD
      (-1.0) then { s with fastest := some (traffic, entries) }
    else { s with last := entries }
  | .none => { s with last := entries }

def entries (s : Selection) : List Entry :=
  match s.fastest with
  | some (_, entries) => entries
  | .none => s.last

end Selection

def checkMatches (comparator : Option Comparator) (item : String) (settings : CheckSettings)
    (time : Float) :
    List Interface → Selection → SampleStore → Except ConfigError (Selection × SampleStore)
  | [], selection, store => .ok (selection, store)
  | i :: rest, selection, store => do
    let (measured, store) := measureUnlessDown i time settings.averaging store
    let entries ← report comparator item settings measured [] i.attributes.node.isNone
    checkMatches comparator item settings time rest (selection.add entries) store

def singleEntries (comparator : Option Comparator) (item : String) (settings : CheckSettings)
    (interfaces : Section) (time : Float) (store : SampleStore) :
    Except ConfigError (List Entry × SampleStore) := do
  let found := interfaces.meantBy item settings.discovered.naming
  let (selection, store) ← checkMatches comparator item settings time found .none store
  return (selection.entries, store)

/-- What was discovered describes one node only, so on clusters it is not used. -/
def groupEntries (comparator : Option Comparator) (item : String) (config : GroupConfig)
    (settings : CheckSettings) (interfaces : Section) (time : Float) (store : SampleStore) :
    Except ConfigError (List Entry × SampleStore) := do
  let (members, store) :=
    Measured.measureAll time settings.averaging (config.membersIn item interfaces) store
  let listing := config.listing item (members.map (·.attributes)) interfaces
  let useDiscovered := interfaces.head?.all (·.attributes.node.isNone)
  let entries ← report comparator item settings (.ofMembers item members) listing useDiscovered
  return (entries, store)

end Check

def checkItem (comparator : Option Comparator) (item : String) (settings : CheckSettings)
    (interfaces : Section) (time : Float) (store : SampleStore) :
    Except ConfigError (List Entry × SampleStore) := do
  Check.requireComparator comparator settings
  match settings.discovered.group with
  | some config => Check.groupEntries comparator item config settings interfaces time store
  | none => Check.singleEntries comparator item settings interfaces time store

end IfaceMonitor
