import IfaceMonitor.Json.Record

namespace IfaceMonitor

inductive State
  | ok
  | warn
  | crit
  | unknown
  deriving DecidableEq

namespace State

def rank : State → Nat
  | ok => 0
  | warn => 1
  | unknown => 2
  | crit => 3

def worst (a b : State) : State :=
  if a.rank < b.rank then b else a

def code : State → Nat
  | ok => 0
  | warn => 1
  | crit => 2
  | unknown => 3

def name : State → String
  | ok => "OK"
  | warn => "WARN"
  | crit => "CRIT"
  | unknown => "UNKNOWN"

def ofCode : Nat → Except ConfigError State
  | 0 => .ok ok
  | 1 => .ok warn
  | 2 => .ok crit
  | 3 => .ok unknown
  | code => .error (.invalidState code)

def encode (s : State) : Json :=
  .int s.code

end State

end IfaceMonitor
