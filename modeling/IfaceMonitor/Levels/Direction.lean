namespace IfaceMonitor

inductive Direction
  | input
  | output
  | total
  deriving DecidableEq

def Direction.name : Direction → String
  | .input => "in"
  | .output => "out"
  | .total => "total"

def Direction.heading : Direction → String
  | .input => "In"
  | .output => "Out"
  | .total => "Total"

inductive RuleDirection
  | input
  | output
  | both
  | total
  deriving DecidableEq

def RuleDirection.name : RuleDirection → String
  | .input => "in"
  | .output => "out"
  | .both => "both"
  | .total => "total"

def RuleDirection.only : Direction → RuleDirection
  | .input => .input
  | .output => .output
  | .total => .total

def RuleDirection.covers : RuleDirection → Direction → Bool
  | .input, .input => true
  | .output, .output => true
  | .both, .input => true
  | .both, .output => true
  | .total, .total => true
  | _, _ => false

inductive Bound
  | upper
  | lower
  deriving DecidableEq

def Bound.name : Bound → String
  | .upper => "upper"
  | .lower => "lower"

inductive TrafficUnit
  | byte
  | bit
  deriving DecidableEq

def TrafficUnit.name : TrafficUnit → String
  | .byte => "byte"
  | .bit => "bit"

def TrafficUnit.unitsPerByte : TrafficUnit → Float
  | .byte => 1.0
  | .bit => 8.0

end IfaceMonitor
