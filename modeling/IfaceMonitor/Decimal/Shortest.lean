import IfaceMonitor.Decimal.Fixed

/-!
The shortest decimal text of a double. Among the decimals that lie closer to the double than to any
other (an end of that interval counts if the significand is even) `shortest` takes one with the
fewest digits and, of these, the nearest. `plain` writes it positionally, `scientific` switches to
an exponent far from one.
-/

namespace IfaceMonitor.Decimal

structure Scientific where
  digits : Nat
  power : Int

inductive Tie
  | toEven
  | up

def belowTen (num den : Nat) (power : Int) : Bool :=
  let (n, d) := scaleTen num den (-power)
  n < d

def decimalExponent (num den : Nat) : Int :=
  let estimate := (((num.log2 : Int) - den.log2) * 30103).fdiv 100000
  if belowTen num den estimate then estimate - 1
  else if belowTen num den (estimate + 1) then estimate
  else estimate + 1

/-- The interval of values that round to a positive double, in quarters of its unit in the last
place. -/
structure Interval where
  low : Nat
  middle : Nat
  high : Nat
  closed : Bool
  exponent : Int

def Binary.interval (b : Binary) : Interval :=
  let m := b.significand
  { low := if m = Nat.pow 2 52 ∧ b.exponent ≠ -1074 then 4 * m - 1 else 4 * m - 2
    middle := 4 * m
    high := 4 * m + 2
    closed := m % 2 == 0
    exponent := b.exponent - 2 }

def Interval.holds (i : Interval) (candidate : Nat) (power : Int) : Bool :=
  let (n, d) := scaleTen candidate 1 power
  let (n, d) := scaleTwo n d (-i.exponent)
  if i.closed then i.low * d ≤ n && n ≤ i.high * d else i.low * d < n && n < i.high * d

def Interval.gridPoint? (tie : Tie) (i : Interval) (power : Int) : Option Nat :=
  let (n, d) := scaleTwo i.middle 1 i.exponent
  let (n, d) := scaleTen n d (-power)
  let lower := n / d
  let twice := 2 * (n % d)
  match i.holds lower power, i.holds (lower + 1) power with
  | true, true =>
    if twice < d then some lower
    else if d < twice then some (lower + 1)
    else
      match tie with
      | .up => some (lower + 1)
      | .toEven => some (if lower % 2 == 0 then lower else lower + 1)
  | true, false => some lower
  | false, true => some (lower + 1)
  | false, false => none

def stripZeros (power : Int) (digits : Nat) : Nat → Scientific
  | 0 => ⟨digits, power⟩
  | fuel + 1 =>
    if digits % 10 == 0 then stripZeros (power + 1) (digits / 10) fuel else ⟨digits, power⟩

/-- Searches the grids with one digit, two digits, and so on; seventeen digits always suffice. -/
def shortestFrom (tie : Tie) (i : Interval) (top : Int) (count : Nat) : Nat → Scientific
  | 0 => ⟨0, 0⟩
  | fuel + 1 =>
    let power := top - count
    match i.gridPoint? tie power with
    | some digits => stripZeros power digits 18
    | none => shortestFrom tie i top (count + 1) fuel

def shortest (tie : Tie) (b : Binary) : Scientific :=
  if b.significand = 0 then ⟨0, 0⟩
  else
    let (num, den) := b.ratio
    shortestFrom tie b.interval (decimalExponent num den) 0 18

def positional (s : Scientific) : List Char :=
  placeText (-s.power).toNat (s.digits * Nat.pow 10 s.power.toNat)

/-- Positional from `10 ^ -5` up to below `10 ^ 16`, always with a point; else one digit before the
point and an exponent. -/
def scientific (s : Scientific) : List Char :=
  let digits := (toString s.digits).toList
  let point := digits.length + s.power
  if s.digits = 0 then ['0', '.', '0']
  else if 0 ≤ s.power ∧ point ≤ 16 then positional s ++ ['.', '0']
  else if -5 < point ∧ point ≤ 16 then positional s
  else
    let exponent := (toString (point - 1)).toList
    match digits with
    | [d] => d :: 'e' :: exponent
    | d :: ds => d :: '.' :: ds ++ 'e' :: exponent
    | [] => []

def plain : Float → String :=
  notate fun b => positional (shortest .up b)

end IfaceMonitor.Decimal
