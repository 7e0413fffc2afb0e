import IfaceMonitor.Decimal.Binary
import IfaceMonitor.Text.Numeral

namespace IfaceMonitor.Decimal

def isDigit (c : Char) : Bool :=
  '0' ≤ c && c ≤ '9'

def digitsValue (cs : List Char) : Nat :=
  cs.foldl (fun n c => 10 * n + (c.toNat - 48)) 0

/-- The exponent after its mark; huge ones are all alike. -/
def readExponent? (cs : List Char) : Option Int :=
  let (negative, cs) :=
    match cs with
    | '-' :: r => (true, r)
    | '+' :: r => (false, r)
    | r => (false, r)
  if cs.isEmpty || !cs.all isDigit then none
  else
    let cs := cs.dropWhile (· == '0')
    let n := if cs.length ≤ 9 then digitsValue cs else Nat.pow 10 9
    some (if negative then -(n : Int) else n)

def readMagnitude? (cs : List Char) : Option Float :=
  let lower := cs.map Char.toLower
  if lower == ['i', 'n', 'f'] || lower ==
    "infinity".toList then some (Float.ofBits 0x7FF0000000000000)
  else if lower == ['n', 'a', 'n'] then some (0.0 / 0.0)
  else
    let whole := cs.takeWhile isDigit
    let (fraction, r) :=
      match cs.dropWhile isDigit with
      | '.' :: r => (r.takeWhile isDigit, r.dropWhile isDigit)
      | r => ([], r)
    if whole.isEmpty && fraction.isEmpty then none
    else
      let value := fun (e : Int) =>
        nearestDecimal (digitsValue (whole ++ fraction)) (e - fraction.length)
      match r with
      | [] => some (value 0)
      | 'e' :: r => (readExponent? r).map value
      | 'E' :: r => (readExponent? r).map value
      | _ => none

def readDouble? (s : String) : Option Float :=
  match s.toList with
  | '-' :: cs => (readMagnitude? cs).map fun x => -x
  | '+' :: cs => readMagnitude? cs
  | cs => readMagnitude? cs

end IfaceMonitor.Decimal
