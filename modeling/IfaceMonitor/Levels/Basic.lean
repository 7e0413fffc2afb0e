import IfaceMonitor.Json.Record
import IfaceMonitor.Levels.Direction

/-!
Configured pairs of levels and their resolution into thresholds. Levels are finite; levels with a
bound are in order, so that the critical level is never reached before the warning level. Absolute
levels are in units per second, percent levels are relative to a speed; thresholds are in bytes per
second.
-/

namespace IfaceMonitor

structure LevelPair where
  warn : Float
  crit : Float

structure Thresholds where
  warn : Float
  crit : Float

namespace LevelPair

def create (warn crit : Float) : Except ConfigError LevelPair :=
  if warn.isFinite && crit.isFinite then .ok ⟨warn, crit⟩
  else .error (.invalidLevels warn crit .notFinite)

def isOrdered (l : LevelPair) : Bound → Bool
  | .upper => l.warn ≤ l.crit
  | .lower => l.warn ≥ l.crit

def orderFault : Bound → LevelFault
  | .upper => .warnAboveCrit
  | .lower => .warnBelowCrit

def requireOrder (bound : Bound) (l : LevelPair) : Except ConfigError LevelPair :=
  if l.isOrdered bound then .ok l else .error (.invalidLevels l.warn l.crit (orderFault bound))

def createUpper (warn crit : Float) : Except ConfigError LevelPair :=
  create warn crit >>= requireOrder .upper

def times (l : LevelPair) (factor : Float) : Thresholds :=
  ⟨l.warn * factor, l.crit * factor⟩

def thresholds (l : LevelPair) : Thresholds :=
  ⟨l.warn, l.crit⟩

def decode (value : Json) : Decoded LevelPair := do
  let (warn, crit) ← value.pair Json.double Json.double
  Decoded.ofConfig (create warn crit)

def decodeOrdered (bound : Bound) (value : Json) : Decoded LevelPair := do
  Decoded.ofConfig ((← decode value).requireOrder bound)

def encode (l : LevelPair) : Json :=
  .arr [.ofFloat l.warn, .ofFloat l.crit]

end LevelPair

inductive LevelScale
  | absolute
  | percent
  deriving DecidableEq

def LevelScale.name : LevelScale → String
  | .absolute => "abs"
  | .percent => "perc"

def LevelPair.thresholdsFor (l : LevelPair) (scale : LevelScale) (speed : Option Float)
    (unit : TrafficUnit) : Option Thresholds :=
  match scale with
  | .absolute => some (l.times (1.0 / unit.unitsPerByte))
  | .percent => (speed.filter fun s => s > 0.0).map fun s => l.times (s / 100.0)

def Bound.decode : Json → Decoded Bound :=
  Json.collectedChoice [("upper", .upper), ("lower", .lower)]

def Bound.encode (b : Bound) : Json :=
  .str b.name

def RuleDirection.decode : Json → Decoded RuleDirection :=
  Json.choice [("in", .input), ("out", .output), ("both", .both), ("total", .total)]

def RuleDirection.encode (d : RuleDirection) : Json :=
  .str d.name

def TrafficUnit.decode : Json → Decoded TrafficUnit :=
  Json.choice [("byte", .byte), ("bit", .bit), ("Bit", .bit)]

def TrafficUnit.encode (u : TrafficUnit) : Json :=
  .str u.name

end IfaceMonitor
