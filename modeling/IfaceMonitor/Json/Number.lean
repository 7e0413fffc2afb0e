import IfaceMonitor.Decimal.Reading
import IfaceMonitor.Decimal.Shortest
import IfaceMonitor.Json.Basic

/-!
Numbers in JSON text. A numeral without point and exponent is a whole number if it fits into 64
bits. Every other numeral is read in doubles: its first digits, as many as fit into 64 bits, are
multiplied or divided by a power of ten. Doubles are written with the fewest digits that determine
them.
-/

namespace IfaceMonitor.Json

structure Numeral where
  negative : Bool
  whole : List Char
  fraction : Option (List Char)
  exponent : Option Int

/-- Appends digits while the number fits into 64 bits; the result is the number and how many were
taken. -/
def gather (significand taken : Nat) : List Char → Nat × Nat
  | [] => (significand, taken)
  | c :: cs =>
    let next := 10 * significand + (c.toNat - 48)
    if next < Nat.pow 2 64 then gather next (taken + 1) cs else (significand, taken)

def powerOfTen (n : Nat) : Float :=
  Float.ofScientific 1 false n

/-- `x * 10 ^ power` in doubles: at most one multiplication, and one division per 308 places. -/
def scale (x : Float) (power : Int) : Nat → Option Float
  | 0 => some 0.0
  | fuel + 1 =>
    if 0 ≤ power then
      if x == 0.0 && 308 < power then some x
      else if 308 < power then none
      else
        let y := x * powerOfTen power.toNat
        if y.isInf then none else some y
    else if -308 ≤ power then some (x / powerOfTen (-power).toNat)
    else if x == 0.0 then some x
    else scale (x / 1e308) (power + 308) fuel

def Numeral.scientific (n : Numeral) : Nat × Int :=
  let (significand, taken) := gather 0 0 n.whole
  let dropped := n.whole.length - taken
  let (significand, places) := gather significand 0 (n.fraction.getD [])
  (significand, (dropped : Int) - places + n.exponent.getD 0)

def Numeral.isWhole (n : Numeral) : Bool :=
  n.fraction.isNone && n.exponent.isNone

def Numeral.double? (n : Numeral) : Option Float :=
  let (significand, power) := n.scientific
  (scale significand.toUInt64.toFloat power 8).map fun x => if n.negative then -x else x

/-- Minus zero and whole numbers outside 64 bits are doubles. -/
def Numeral.value? (n : Numeral) : Option Json :=
  let magnitude := Decimal.digitsValue n.whole
  if n.isWhole && !n.negative && magnitude < Nat.pow 2 64 then some (.int magnitude)
  else if n.isWhole && n.negative && 0 < magnitude && magnitude ≤
    Nat.pow 2 63 then some (.int (-(magnitude : Int)))
  else n.double?.map .float

def digitSpan (cs : List Char) : List Char × List Char :=
  (cs.takeWhile Decimal.isDigit, cs.dropWhile Decimal.isDigit)

def readWhole? (cs : List Char) : Option (List Char × List Char) :=
  match digitSpan cs with
  | ([], _) => none
  | ('0' :: _ :: _, _) => none
  | found => some found

def readFraction? : List Char → Option (Option (List Char) × List Char)
  | '.' :: cs =>
    match digitSpan cs with
    | ([], _) => none
    | (digits, rest) => some (some digits, rest)
  | cs => some (none, cs)

def readSign : List Char → Bool × List Char
  | '-' :: cs => (true, cs)
  | '+' :: cs => (false, cs)
  | cs => (false, cs)

def readPower? (cs : List Char) : Option (Option Int × List Char) :=
  let (negative, cs) := readSign cs
  match digitSpan cs with
  | ([], _) => none
  | (digits, rest) => (Decimal.readExponent? digits).map fun e =>
    (some (if negative then -e else e), rest)

def readExponent? : List Char → Option (Option Int × List Char)
  | 'e' :: cs => readPower? cs
  | 'E' :: cs => readPower? cs
  | cs => some (none, cs)

def readUnsignedNumeral? (negative : Bool) (cs : List Char) : Option (Numeral × List Char) := do
  let (whole, cs) ← readWhole? cs
  let (fraction, cs) ← readFraction? cs
  let (exponent, cs) ← readExponent? cs
  some (⟨negative, whole, fraction, exponent⟩, cs)

def readNumeral? : List Char → Option (Numeral × List Char)
  | '-' :: cs => readUnsignedNumeral? true cs
  | cs => readUnsignedNumeral? false cs

def readNumber? (cs : List Char) : Option (Json × List Char) := do
  let (numeral, rest) ← readNumeral? cs
  some (numeral.value?.getD .unreadable, rest)

def floatText (x : Float) : List Char :=
  let b := Decimal.Binary.ofFloat x
  let magnitude := Decimal.scientific (Decimal.shortest .toEven b)
  if b.negative then '-' :: magnitude else magnitude

end IfaceMonitor.Json
