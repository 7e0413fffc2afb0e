import IfaceMonitor.Decimal.Binary
import IfaceMonitor.Text.Numeral

namespace IfaceMonitor.Decimal

def fixedUnits (places : Nat) (b : Binary) : Nat :=
  let (num, den) := b.ratio
  roundDiv (num * Nat.pow 10 places) den

def placeText (places units : Nat) : List Char :=
  let whole := (toString (units / Nat.pow 10 places)).toList
  if places = 0 then whole
  else whole ++ '.' :: Text.padLeft places (toString (units % Nat.pow 10 places)).toList

def notate (finite : Binary → List Char) (x : Float) : String :=
  if x.isNaN then "NaN"
  else
    let b := Binary.ofFloat x
    let magnitude := if x.isInf then ['i', 'n', 'f'] else finite b
    String.ofList (if b.negative then '-' :: magnitude else magnitude)

def fixed (places : Nat) : Float → String :=
  notate fun b => placeText places (fixedUnits places b)

end IfaceMonitor.Decimal
