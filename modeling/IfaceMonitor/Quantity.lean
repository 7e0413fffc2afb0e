import IfaceMonitor.Decimal.Fixed

namespace IfaceMonitor.Quantity

open Decimal

def siUnits : List String := ["", "k", "M", "G", "T", "P", "E", "Z", "Y"]

def scaleDown (value : Float) (unit : String) : List String → Float × String
  | [] => (value, unit)
  | next :: larger =>
    if value.abs ≥ 1000.0 then scaleDown (value / 1000.0) next larger else (value, unit)

def mantissaPlaces (value : Float) : Nat :=
  if value < 10.0 then 2 else if value < 100.0 then 1 else 0

def scaleToUnit (value : Float) : String × String :=
  let (scaled, unit) := scaleDown value "" siUnits.tail
  (fixed (mantissaPlaces scaled) scaled, unit)

def trimZeros (cs : List Char) : List Char :=
  Text.dropEndWhile (· == '.') (Text.dropEndWhile (· == '0') cs)

def trimFraction (text : String) : String :=
  if text.toList.contains '.' then String.ofList (trimZeros text.toList) else text

def bandwidth (bytesPerSecond : Float) : String :=
  let (mantissa, unit) := scaleToUnit bytesPerSecond
  mantissa ++ " " ++ unit ++ "B/s"

/-- A byte rate as a bit rate, without zeros at the end of the mantissa, such as `10 MBit/s`. -/
def linkSpeed (bytesPerSecond : Float) : String :=
  let (mantissa, unit) := scaleToUnit (bytesPerSecond * 8.0)
  trimFraction mantissa ++ " " ++ unit ++ "Bit/s"

def smallPlaces (value : Float) : Nat :=
  (1 - floor value.abs.log10).toNat

def percentage (value : Float) : String :=
  if value == 0.0 then "0%"
  else if value.abs ≥ 0.01 then fixed 2 value ++ "%"
  else trimFraction (fixed (smallPlaces value) value) ++ "%"

def powerFrom (result base : Float) (n : Nat) : Nat → Float
  | 0 => result
  | fuel + 1 =>
    let result := if n % 2 == 1 then result * base else result
    if n / 2 == 0 then result else powerFrom result (base * base) (n / 2) fuel

def smallestShown (precision : Nat) : Float :=
  if precision = 0 then 1.0 else 1.0 / powerFrom 1.0 10.0 precision 64

def smallestShownText (precision : Nat) : String :=
  "0." ++ String.ofList (List.replicate (precision - 1) '0') ++ "1"

/-- Whole numbers have no places, other values at most `precision` of them; a value that would be
shown as zero is only bounded, as in `<0.01`. -/
def withPlaces (precision : Nat) (unit : String) (value : Float) : String :=
  if isWhole value then fixed 0 value ++ unit
  else if value.abs < smallestShown precision then
    (if value > 0.0 then "<" else ">-") ++ smallestShownText precision ++ unit
  else String.ofList (trimZeros (fixed precision value).toList) ++ unit

def packetRate : Float → String :=
  withPlaces 2 " packets/s"

def packetShare : Float → String :=
  withPlaces 3 "%"

end IfaceMonitor.Quantity
