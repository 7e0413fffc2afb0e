import IfaceMonitor.Check.State
import IfaceMonitor.Levels.Basic

namespace IfaceMonitor

/-- Whether a text belongs to the one-line summary or only to the details. -/
inductive Severity
  | summary
  | notice
  deriving DecidableEq

structure Finding where
  state : State
  text : String
  severity : Severity

def Finding.summary (state : State) (text : String) : Finding :=
  { state, text, severity := .summary }

def Finding.notice (state : State) (text : String) : Finding :=
  { state, text, severity := .notice }

structure Metric where
  name : String
  value : Float
  warn : Option Float
  crit : Option Float
  lowerBoundary : Option Float
  upperBoundary : Option Float

def Metric.plain (name : String) (value : Float) : Metric :=
  { name, value, warn := none, crit := none, lowerBoundary := none, upperBoundary := none }

def Metric.withLevels (m : Metric) (levels : Option Thresholds) : Metric :=
  { m with warn := levels.map (·.warn), crit := levels.map (·.crit) }

@[simp] theorem Metric.withLevels_name (m : Metric) (levels : Option Thresholds) :
    (m.withLevels levels).name = m.name := rfl

@[simp] theorem Metric.withLevels_value (m : Metric) (levels : Option Thresholds) :
    (m.withLevels levels).value = m.value := rfl

inductive Entry
  | result (result : Finding)
  | metric (metric : Metric)

namespace Entry

def result? : Entry → Option Finding
  | result r => some r
  | metric _ => none

def metric? : Entry → Option Metric
  | metric m => some m
  | result _ => none

def encode : Entry → Json
  | result r =>
    .obj [("type", .str "result"), ("state", r.state.encode), ("text", .str r.text),
      ("severity", .str (match r.severity with | .summary => "summary" | .notice => "notice"))]
  | metric m =>
    .objOf [
      ("type", some (.str "metric")),
      ("name", some (.str m.name)),
      ("value", some (.ofFloat m.value)),
      ("warn", m.warn.map .ofFloat),
      ("crit", m.crit.map .ofFloat),
      ("lower_boundary", m.lowerBoundary.map .ofFloat),
      ("upper_boundary", m.upperBoundary.map .ofFloat)]

end Entry

def overallState (entries : List Entry) : State :=
  (entries.filterMap Entry.result?).foldl (fun worst r => worst.worst r.state) .ok

end IfaceMonitor
