import IfaceMonitor.Config.StateMapping
import IfaceMonitor.Group.Config
import IfaceMonitor.Levels.Packet
import IfaceMonitor.Levels.Traffic

namespace IfaceMonitor

inductive InfoFormat
  | aliasName
  | descr
  | both
  | aliasFirst
  | descrFirst
  deriving DecidableEq

def InfoFormat.names : List (String × InfoFormat) :=
  [("alias", aliasName), ("description", descr), ("alias_and_description", both),
    ("alias_or_description", aliasFirst), ("description_or_alias", descrFirst)]

def InfoFormat.name : InfoFormat → String
  | aliasName => "alias"
  | descr => "description"
  | both => "alias_and_description"
  | aliasFirst => "alias_or_description"
  | descrFirst => "description_or_alias"

structure Discovered where
  naming : Option NameSource
  operStates : Option (List LinkStatus)
  speed : Option Float
  adminStates : Option (List LinkStatus)
  group : Option GroupConfig

namespace Discovered

def none : Discovered where
  naming := .none
  operStates := .none
  speed := .none
  adminStates := .none
  group := .none

def fieldNames : List String :=
  ["item_appearance", "discovered_oper_status", "discovered_speed",
    "discovered_admin_status", "aggregate"]

def ofFields (naming : Json → Decoded NameSource) (fields : List (String × Json)) :
    Decoded Discovered := do
  let states := fun name =>
    Json.withDefault fields name .none (Json.optional (Json.list LinkStatus.decode))
  return {
    naming := ← Json.withDefault fields "item_appearance" .none (Json.optional naming)
    operStates := ← states "discovered_oper_status"
    speed := ← Json.withDefault fields "discovered_speed" .none (Json.optional Json.double)
    adminStates := ← states "discovered_admin_status"
    group :=
      ← Json.withDefault fields "aggregate" .none
        (Json.optional (GroupConfig.decodeWith naming)) }

def decode (value : Json) : Decoded Discovered := do
  ofFields NameSource.decode (← value.record fieldNames)

def encode (d : Discovered) : Json :=
  .objOf [
    ("item_appearance", d.naming.map NameSource.encode),
    ("discovered_oper_status", d.operStates.map (Json.ofList LinkStatus.encode)),
    ("discovered_speed", d.speed.map .ofFloat),
    ("discovered_admin_status", d.adminStates.map (Json.ofList LinkStatus.encode)),
    ("aggregate", d.group.map GroupConfig.encode)]

end Discovered

structure Averaging where
  octets : Option Nat
  broadcastMulticast : Option Nat

structure CheckSettings where
  discovered : Discovered
  speed : Option Float
  operStates : Option (List LinkStatus)
  adminStates : Option (List LinkStatus)
  assumedSpeedIn : Option Float
  assumedSpeedOut : Option Float
  averaging : Averaging
  unit : TrafficUnit
  traffic : List TrafficRule
  /-- Levels of the total traffic; the total is checked if they are present, even if there are
  none. -/
  totalTraffic : Option (List LevelSpec)
  errors : Option PacketLimits
  discards : Option PacketLimits
  multicast : Option PacketLimits
  broadcast : Option PacketLimits
  unicast : Option PacketLimits
  nonUnicast : Option LevelPair
  infoFormat : Option InfoFormat
  stateMapping : Option StateMapping

namespace CheckSettings

def standard : CheckSettings where
  discovered := .none
  speed := none
  operStates := none
  adminStates := none
  assumedSpeedIn := none
  assumedSpeedOut := none
  averaging := ⟨none, none⟩
  unit := .byte
  traffic := []
  totalTraffic := none
  errors := some .standardErrors
  discards := none
  multicast := none
  broadcast := none
  unicast := none
  nonUnicast := none
  infoFormat := none
  stateMapping := none

def withDiscovered (p : CheckSettings) (discovered : Discovered) : CheckSettings :=
  { p with discovered }

/-- A discovered speed of zero means that no speed was known. -/
def expectedSpeed (p : CheckSettings) (useDiscovered : Bool) : Option Float :=
  p.speed <|> (if useDiscovered then p.discovered.speed.filter fun s => s > 0.0 else none)

def expectedOperStates (p : CheckSettings) (useDiscovered : Bool) : Option (List LinkStatus) :=
  p.operStates <|> (if useDiscovered then p.discovered.operStates else none)

def expectedAdminStates (p : CheckSettings) (useDiscovered : Bool) : Option (List LinkStatus) :=
  p.adminStates <|> (if useDiscovered then p.discovered.adminStates else none)

def checksTotal (p : CheckSettings) : Bool :=
  p.totalTraffic.isSome

def rulesInOrder (p : CheckSettings) : List TrafficRule :=
  p.traffic ++ (p.totalTraffic.getD []).map (⟨.total, ·⟩)

def ownFieldNames : List String :=
  ["speed", "state", "admin_state", "assumed_speed_in", "assumed_speed_out", "average",
    "average_bm", "unit", "traffic", "total_traffic", "errors", "discards", "multicast",
    "broadcast", "unicast", "nucasts", "infotext_format", "state_mappings"]

def decodeTotal (value : Json) : Decoded (List LevelSpec) := do
  Json.withDefault (← value.record ["levels"]) "levels" [] (Json.list LevelSpec.decode)

def decode (value : Json) : Decoded CheckSettings := do
  let members ← value.members
  let fields ← Json.known ownFieldNames members
  let found ← Json.known Discovered.fieldNames (← Json.collected ownFieldNames members)
  let speeds := fun name => Json.withDefault fields name none (Json.optional Json.double)
  let states := fun name =>
    Json.withDefault fields name none (Json.optional (Json.list LinkStatus.decode))
  let backlog := fun name =>
    Json.withDefault fields name none (Json.optional (Json.natural (Nat.pow 2 32)))
  let packets := fun name default =>
    Json.withDefault fields name default (Json.optional PacketLimits.decode)
  return {
    discovered := ← Discovered.ofFields NameSource.decodeCollected found
    speed := ← speeds "speed"
    operStates := ← states "state"
    adminStates := ← states "admin_state"
    assumedSpeedIn := ← speeds "assumed_speed_in"
    assumedSpeedOut := ← speeds "assumed_speed_out"
    averaging := ⟨← backlog "average", ← backlog "average_bm"⟩
    unit := ← Json.withDefault fields "unit" .byte TrafficUnit.decode
    traffic := ← Json.withDefault fields "traffic" [] (Json.list TrafficRule.decode)
    totalTraffic := ← Json.withDefault fields "total_traffic" none (Json.optional decodeTotal)
    errors := ← packets "errors" standard.errors
    discards := ← packets "discards" none
    multicast := ← packets "multicast" none
    broadcast := ← packets "broadcast" none
    unicast := ← packets "unicast" none
    nonUnicast :=
      ← Json.withDefault fields "nucasts" none (Json.optional (LevelPair.decodeOrdered .upper))
    infoFormat :=
      ← Json.withDefault fields "infotext_format" none
        (Json.optional (Json.choice InfoFormat.names))
    stateMapping :=
      ← Json.withDefault fields "state_mappings" none (Json.optional StateMapping.decode) }

end CheckSettings

end IfaceMonitor
