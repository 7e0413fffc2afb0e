import IfaceMonitor.Levels.Basic

/-!
Traffic rules and what they amount to in one direction. The rules that cover a direction are taken
in order: a predictive rule replaces everything before it, a fixed rule replaces the levels of its
bound and a predictive rule before it.
-/

namespace IfaceMonitor

inductive LevelSpec
  | fixed (scale : LevelScale) (bound : Bound) (levels : LevelPair)
  | predictive (config : Json)

namespace LevelSpec

inductive Form
  | fixed (scale : LevelScale)
  | predictive

def forms : List (String × Form) :=
  [("abs", .fixed .absolute), ("perc", .fixed .percent), ("predictive", .predictive)]

def isPredictive : LevelSpec → Bool
  | predictive _ => true
  | fixed .. => false

def decodeFixed (scale : LevelScale) (fields : List (String × Json)) : Decoded LevelSpec := do
  let bound ← Json.withDefault fields "bound" .upper Bound.decode
  let levels ← Json.required fields "levels" (LevelPair.decodeOrdered bound)
  return .fixed scale bound levels

def decodeForm (form : Form) (fields : List String → Decoded (List (String × Json))) :
    Decoded LevelSpec :=
  match form with
  | .fixed scale => do decodeFixed scale (← fields ["bound", "levels"])
  | .predictive => do return .predictive (← Json.required (← fields ["config"]) "config" .ok)

def decodeMembers (form : Json → Decoded Form) (members : List (String × Json)) :
    Decoded LevelSpec := do
  let form ← Json.required (← Json.known ["kind"] members) "kind" form
  decodeForm form fun names => Json.known names members

def decode (value : Json) : Decoded LevelSpec := do
  match ← value.readable with
  | .arr (form :: items) =>
    decodeForm (← form.named forms) fun names => (Json.arr items).record names
  | value => decodeMembers (Json.named forms) (← value.members)

def encodeMembers : LevelSpec → List (String × Json)
  | fixed scale bound levels =>
    [("kind", .str scale.name), ("bound", bound.encode), ("levels", levels.encode)]
  | predictive config => [("kind", .str "predictive"), ("config", config)]

def encode (l : LevelSpec) : Json :=
  .obj l.encodeMembers

end LevelSpec

structure TrafficRule where
  direction : RuleDirection
  levels : LevelSpec

namespace TrafficRule

/-- Among the members of a rule the form may also be given by its number. -/
def decodeForm : Json → Decoded LevelSpec.Form
  | .int n => (LevelSpec.forms.map (·.2))[n.toNat]?.elim (.error .shape) fun form =>
      if 0 ≤ n then .ok form else .error .shape
  | value => value.named LevelSpec.forms

def decode (value : Json) : Decoded TrafficRule := do
  let members ← value.members
  let fields ← Json.known ["direction"] members
  let direction ← Json.required fields "direction" RuleDirection.decode
  return {
    direction,
    levels := ← LevelSpec.decodeMembers decodeForm (← Json.collected ["direction"] members) }

def encode (r : TrafficRule) : Json :=
  .obj (("direction", r.direction.encode) :: r.levels.encodeMembers)

end TrafficRule

inductive EffectiveLevels
  | fixed (upper lower : Option Thresholds)
  | predictive (config : Json)

/-- Speeds in bytes per second, where they are known. -/
structure ReferenceSpeeds where
  input : Option Float
  output : Option Float
  total : Option Float

def ReferenceSpeeds.get (s : ReferenceSpeeds) : Direction → Option Float
  | .input => s.input
  | .output => s.output
  | .total => s.total

structure LinkSpeeds where
  input : Option Float
  output : Option Float

/-- The total speed is known if both directions are. -/
def LinkSpeeds.total (s : LinkSpeeds) : Option Float :=
  match s.input, s.output with
  | some a, some b => some (a + b)
  | _, _ => none

def LinkSpeeds.references (s : LinkSpeeds) : ReferenceSpeeds :=
  { input := s.input, output := s.output, total := s.total }

instance : Coe LinkSpeeds ReferenceSpeeds :=
  ⟨LinkSpeeds.references⟩

def LinkSpeeds.get (s : LinkSpeeds) (direction : Direction) : Option Float :=
  s.references.get direction

def EffectiveLevels.withBound (old : EffectiveLevels) (bound : Bound)
    (thresholds : Option Thresholds) : EffectiveLevels :=
  match bound, old with
  | .upper, .fixed _ lower => .fixed thresholds lower
  | .lower, .fixed upper _ => .fixed upper thresholds
  | .upper, .predictive _ => .fixed thresholds none
  | .lower, .predictive _ => .fixed none thresholds

def EffectiveLevels.override (speed : Option Float) (unit : TrafficUnit) (old : EffectiveLevels) :
    LevelSpec → EffectiveLevels
  | .predictive config => .predictive config
  | .fixed scale bound levels => old.withBound bound (levels.thresholdsFor scale speed unit)

def mergedLevels (rules : List TrafficRule) (speeds : ReferenceSpeeds) (unit : TrafficUnit)
    (direction : Direction) : EffectiveLevels :=
  (rules.filter fun r => r.direction.covers direction).foldl
    (fun old r => old.override (speeds.get direction) unit r.levels) (.fixed none none)

end IfaceMonitor
