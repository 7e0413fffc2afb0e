import IfaceMonitor.Check.Judgement
import IfaceMonitor.Levels.Traffic
import IfaceMonitor.Quantity
import IfaceMonitor.Rate.Averaged

/-!
Traffic against its levels, direction by direction. Levels are checked against the average where
there is one; the metric shows the rate itself. A comparator judges the directions with predictive
levels.
-/

namespace IfaceMonitor

structure Prediction where
  result : Finding
  metric : Metric
  referenceCurve : List Metric

/-- Judges a value by its own history: from the value, the configuration, the name of the metric,
the label of the text and the form of values in it. -/
abbrev Comparator := Float → Json → String → String → (Float → String) → Prediction

def TrafficUnit.render : TrafficUnit → Float → String
  | .byte => Quantity.bandwidth
  | .bit => Quantity.linkSpeed

structure TrafficCheck where
  speeds : ReferenceSpeeds
  levels : Direction → EffectiveLevels
  unit : TrafficUnit
  assumedSpeed : Bool
  checksTotal : Bool
  comparator : Option Comparator

namespace TrafficCheck

def label (direction : Direction) (traffic : AveragedRate) : String :=
  match traffic.average with
  | some a => direction.heading ++ " average " ++ toString a.backlog ++ "min"
  | none => direction.heading

def metricName (direction : Direction) (traffic : AveragedRate) : String :=
  match traffic.average with
  | some a => direction.name ++ "_avg_" ++ toString a.backlog
  | none => direction.name

def predictionEntries (traffic : AveragedRate) (p : Prediction) : List Entry :=
  -- The metric of an average is kept for future predictions.
  (if traffic.average.isSome then [.metric p.metric] else []) ++ p.referenceCurve.map .metric

def judge (c : TrafficCheck) (direction : Direction) (traffic : AveragedRate) :
    Except ConfigError (List Entry × Finding × Option Thresholds) :=
  match c.levels direction with
  | .fixed upper lower =>
    let (state, text) :=
      assess traffic.effective upper lower c.unit.render (label direction traffic)
    .ok ([], .summary state text, upper)
  | .predictive config =>
    match c.comparator with
    | none => .error (.predictiveWithoutComparator (.only direction))
    | some compare =>
      let p :=
        compare traffic.effective config (metricName direction traffic)
          (label direction traffic) c.unit.render
      .ok (predictionEntries traffic p, p.result, none)

def shareText (c : TrafficCheck) (value speed : Float) : String :=
  let share := Quantity.percentage (100.0 * value / speed)
  if c.assumedSpeed then share ++ "/" ++ c.unit.render speed else share

def withShare (c : TrafficCheck) (value : Float) (speed : Option Float) (result : Finding) :
    Finding :=
  match speed.filter fun s => s != 0.0 with
  | some s => { result with text := result.text ++ " (" ++ c.shareText value s ++ ")" }
  | none => result

def directionEntries (c : TrafficCheck) (direction : Direction) (traffic : AveragedRate) :
    Except ConfigError (List Entry) := do
  let speed := c.speeds.get direction
  let (first, result, upper) ← c.judge direction traffic
  -- Graphs show the rate itself, not its average.
  let metric : Metric :=
    { name := direction.name
      value := traffic.rate
      warn := upper.map (·.warn)
      crit := upper.map (·.crit)
      lowerBoundary := some 0.0
      upperBoundary := speed }
  return first ++ [.result (c.withShare traffic.effective speed result), .metric metric]

def measuredDirections (c : TrafficCheck) (rates : TrafficRates) :
    List (Direction × AveragedRate) :=
  let total := if c.checksTotal then [(Direction.total, rates.octetTotal)] else []
  let all := [(Direction.input, rates.counters.inOctets),
    (Direction.output, rates.counters.outOctets)] ++ total
  all.filterMap fun (direction, rate) => rate.map (direction, ·)

def report (c : TrafficCheck) (rates : TrafficRates) : Except ConfigError (List Entry) := do
  let entries ← (c.measuredDirections rates).mapM fun (direction, rate) =>
    c.directionEntries direction rate
  return entries.flatten

end TrafficCheck

end IfaceMonitor
