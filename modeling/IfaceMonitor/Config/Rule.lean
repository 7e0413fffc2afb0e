import IfaceMonitor.Config.Criteria
import IfaceMonitor.ItemName

/-!
Discovery rules. A rule says for the interfaces that meet its conditions whether and how they become
items of their own, and into which groups they are put. Rules are listed by priority, the first one
first.
-/

namespace IfaceMonitor

abbrev Labels := Table String

def Labels.decode : Json → Decoded Labels :=
  Json.table Json.text

def Labels.encode (l : Labels) : Json :=
  Json.ofTable .str l

structure SingleSettings where
  enabled : Bool
  naming : NameSource
  padded : Bool
  labels : Labels

namespace SingleSettings

def disabled : SingleSettings :=
  { enabled := false, naming := .index, padded := true, labels := .empty }

def decode (value : Json) : Decoded SingleSettings := do
  let fields ← value.record ["enabled", "naming", "pad_portnumbers", "labels"]
  return {
    enabled := ← Json.required fields "enabled" Json.flag
    naming := ← Json.withDefault fields "naming" .index NameSource.decode
    padded := ← Json.withDefault fields "pad_portnumbers" true Json.flag
    labels := ← Json.withDefault fields "labels" .empty Labels.decode }

def encode (s : SingleSettings) : Json :=
  .objOf [
    ("enabled", some (.bool s.enabled)),
    ("naming", some s.naming.encode),
    ("pad_portnumbers", some (.bool s.padded)),
    ("labels", if s.labels.isEmpty then none else some s.labels.encode)]

end SingleSettings

structure GroupEntry where
  name : String
  memberNaming : NameSource

def GroupEntry.decode (value : Json) : Decoded GroupEntry := do
  let fields ← value.record ["group_name", "member_appearance"]
  return {
    name := ← Json.required fields "group_name" Json.text
    memberNaming := ← Json.withDefault fields "member_appearance" .index NameSource.decode }

def GroupEntry.encode (i : GroupEntry) : Json :=
  .obj [("group_name", .str i.name), ("member_appearance", i.memberNaming.encode)]

/-- Groups for interfaces. Where grouping is disabled, the interfaces stay out of the groups of
rules further down. -/
structure Grouping where
  enabled : Bool
  items : List GroupEntry
  labels : Labels

def Grouping.decode (value : Json) : Decoded Grouping := do
  let fields ← value.record ["enabled", "group_items", "labels"]
  return {
    enabled := ← Json.required fields "enabled" Json.flag
    items := ← Json.withDefault fields "group_items" [] (Json.list GroupEntry.decode)
    labels := ← Json.withDefault fields "labels" .empty Labels.decode }

def Grouping.encode (g : Grouping) : Json :=
  .objOf [
    ("enabled", some (.bool g.enabled)),
    ("group_items", some (Json.ofList GroupEntry.encode g.items)),
    ("labels", if g.labels.isEmpty then none else some g.labels.encode)]

structure DiscoveryRule where
  criteria : Criteria
  single : Option SingleSettings
  grouping : Option Grouping

namespace DiscoveryRule

def ethernetTypes : List String :=
  ["6", "32", "62", "117", "127", "128", "129", "180", "181", "182", "205", "229"]

/-- The rule without any configuration: ethernet interfaces that are up become items named by padded
index. -/
def standard : DiscoveryRule where
  criteria :=
    { Criteria.unrestricted with typeCodes := some ethernetTypes, operStates := some [.up] }
  single := some { SingleSettings.disabled with enabled := true }
  grouping := none

def requireNames (r : DiscoveryRule) : Except ConfigError Unit :=
  match r.grouping with
  | none => .ok ()
  | some g =>
    if g.items.any fun i => (Text.trim i.name).isEmpty then .error .emptyGroupName else .ok ()

def decode (value : Json) : Decoded DiscoveryRule := do
  let fields ← value.record ["matching_conditions", "discovery_single", "grouping"]
  return {
    criteria := ← Json.withDefault fields "matching_conditions" .unrestricted Criteria.decode
    single :=
      ← Json.withDefault fields "discovery_single" none (Json.optional SingleSettings.decode)
    grouping := ← Json.withDefault fields "grouping" none (Json.optional Grouping.decode) }

def encode (r : DiscoveryRule) : Json :=
  .objOf [
    ("matching_conditions", some r.criteria.encode),
    ("discovery_single", r.single.map SingleSettings.encode),
    ("grouping", r.grouping.map Grouping.encode)]

end DiscoveryRule

def checkRules (rules : List DiscoveryRule) : Except ConfigError (List DiscoveryRule) := do
  rules.forM DiscoveryRule.requireNames
  return rules

end IfaceMonitor
