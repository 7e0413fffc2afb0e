import IfaceMonitor.Decimal.Shortest
import IfaceMonitor.Levels.Direction

namespace IfaceMonitor

inductive LevelFault
  | notFinite
  | warnAboveCrit
  | warnBelowCrit
  deriving DecidableEq

def LevelFault.message : LevelFault → String
  | .notFinite => "levels must be finite"
  | .warnAboveCrit => "warning level is above critical level"
  | .warnBelowCrit => "warning level is below critical level"

inductive ConfigError
  | invalidPattern (pattern reason : String)
  | emptyGroupName
  | invalidState (code : Nat)
  | ambiguousStatus (status : String) (first second : Nat)
  | ambiguousStatusPair (oper admin : String) (first second : Nat)
  | invalidLevels (warn crit : Float) (fault : LevelFault)
  | predictiveWithoutComparator (direction : RuleDirection)

def ConfigError.message : ConfigError → String
  | .invalidPattern pattern reason => "invalid regular expression `" ++ pattern ++ "`: " ++ reason
  | .emptyGroupName => "group name must not be empty"
  | .invalidState code =>
    "invalid monitoring state `" ++ toString code ++
      "`: expected 0 (OK), 1 (WARN), 2 (CRIT) or 3 (UNKNOWN)"
  | .ambiguousStatus status first second =>
    "state `" ++ status ++ "` is mapped to both " ++ toString first ++ " and " ++ toString second
  | .ambiguousStatusPair oper admin first second =>
    "combination of operational state `" ++ oper ++ "` and admin state `" ++ admin ++
      "` is mapped to both " ++ toString first ++ " and " ++ toString second
  | .invalidLevels warn crit fault =>
    "invalid levels (" ++ Decimal.plain warn ++ ", " ++ Decimal.plain crit ++ "): " ++ fault.message
  | .predictiveWithoutComparator direction =>
    "predictive levels configured for `" ++ direction.name ++
      "`, but no predictive comparator is available"

inductive InterfaceError
  | blankIndex (descr : String)
  | invalidAddress (text : String)

def InterfaceError.message : InterfaceError → String
  | .blankIndex descr => "interface record without index (descr `" ++ descr ++ "`)"
  | .invalidAddress text =>
    "invalid physical address `" ++ text ++ "`: expected colon separated hex bytes"

end IfaceMonitor
