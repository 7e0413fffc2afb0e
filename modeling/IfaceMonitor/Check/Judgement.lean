import IfaceMonitor.Check.Entry

namespace IfaceMonitor

namespace Thresholds

def upperState (t : Thresholds) (value : Float) : State :=
  if value ≥ t.crit then .crit else if value ≥ t.warn then .warn else .ok

def lowerState (t : Thresholds) (value : Float) : State :=
  if value < t.crit then .crit else if value < t.warn then .warn else .ok

def text (t : Thresholds) (side : String) (render : Float → String) : String :=
  " (warn/crit " ++ side ++ " " ++ render t.warn ++ "/" ++ render t.crit ++ ")"

end Thresholds

def violation (value : Float) (upper lower : Option Thresholds) :
    Option (State × Bound × Thresholds) :=
  let ofUpper := upper.bind fun t =>
    if t.upperState value = .ok then none else some (t.upperState value, .upper, t)
  let ofLower := lower.bind fun t =>
    if t.lowerState value = .ok then none else some (t.lowerState value, .lower, t)
  ofUpper <|> ofLower

def assess (value : Float) (upper lower : Option Thresholds) (render : Float → String)
    (label : String) : State × String :=
  let text := label ++ ": " ++ render value
  match violation value upper lower with
  | none => (.ok, text)
  | some (state, .upper, t) => (state, text ++ t.text "at" render)
  | some (state, .lower, t) => (state, text ++ t.text "below" render)

end IfaceMonitor
