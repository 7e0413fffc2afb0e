/-!
Doubles as exact binary fractions: a finite double is `± significand · 2 ^ exponent`. Whole parts,
decimal places and shortest decimals are computed from these two numbers, so nothing is rounded
twice. `roundDiv` rounds a quotient to the nearest whole number and a tie to the even one.
-/

namespace IfaceMonitor.Decimal

structure Binary where
  negative : Bool
  significand : Nat
  exponent : Int

def Binary.ofFloat (x : Float) : Binary :=
  let bits := x.toBits.toNat
  let field : Nat := bits / Nat.pow 2 52 % Nat.pow 2 11
  let fraction : Nat := bits % Nat.pow 2 52
  { negative := Nat.pow 2 63 ≤ bits
    significand := if field = 0 then fraction else Nat.pow 2 52 + fraction
    exponent := if field = 0 then -1074 else (field : Int) - 1075 }

def Binary.ratio (b : Binary) : Nat × Nat :=
  (b.significand * Nat.pow 2 b.exponent.toNat, Nat.pow 2 (-b.exponent).toNat)

/-- The quotient rounded to the nearest natural number, a tie to the even one. -/
def roundDiv (num den : Nat) : Nat :=
  let quotient := num / den
  let twice := 2 * (num % den)
  if den < twice || (twice == den && quotient % 2 == 1) then quotient + 1 else quotient

def scaleTen (num den : Nat) (power : Int) : Nat × Nat :=
  (num * Nat.pow 10 power.toNat, den * Nat.pow 10 (-power).toNat)

def scaleTwo (num den : Nat) (power : Int) : Nat × Nat :=
  (num * Nat.pow 2 power.toNat, den * Nat.pow 2 (-power).toNat)

def nearestDecimal (digits : Nat) (power : Int) : Float :=
  let length := ((toString digits).length : Int)
  if digits = 0 || length + power < -330 then 0.0
  else if 310 < length + power then Float.ofBits 0x7FF0000000000000
  else Float.ofScientific digits (power < 0) power.natAbs

def Binary.wholePart (b : Binary) : Nat :=
  b.ratio.1 / b.ratio.2

def Binary.isWhole (b : Binary) : Bool :=
  b.ratio.1 % b.ratio.2 == 0

def isWhole (x : Float) : Bool :=
  !x.isNaN && (Binary.ofFloat x).isWhole

def floor (x : Float) : Int :=
  let b := Binary.ofFloat x
  if b.negative then -((b.wholePart + if b.isWhole then 0 else 1 : Nat) : Int) else b.wholePart

def sameWholePart (x y : Float) : Bool :=
  if x.isFinite && y.isFinite then
    let a := Binary.ofFloat x
    let b := Binary.ofFloat y
    a.wholePart == b.wholePart && (a.negative == b.negative || a.wholePart == 0)
  else x == y

theorem roundDiv_le (num den : Nat) (h : 0 < den) :
    2 * den * roundDiv num den ≤ 2 * num + den := by
  have hd := Nat.div_add_mod num den
  have hm := Nat.mod_lt num h
  unfold roundDiv
  simp only
  have key : 2 * den * (num / den) + 2 * (num % den) = 2 * num := by
    rw [Nat.mul_assoc, ← Nat.mul_add, hd]
  have step : 2 * den * (num / den + 1) = 2 * den * (num / den) + 2 * den := by
    rw [Nat.mul_add, Nat.mul_one]
  split
  · rename_i hr
    simp only [Bool.or_eq_true, decide_eq_true_eq, Bool.and_eq_true, beq_iff_eq] at hr
    omega
  · omega

theorem le_roundDiv (num den : Nat) (h : 0 < den) :
    2 * num ≤ 2 * den * roundDiv num den + den := by
  have hd := Nat.div_add_mod num den
  have hm := Nat.mod_lt num h
  unfold roundDiv
  simp only
  have key : 2 * den * (num / den) + 2 * (num % den) = 2 * num := by
    rw [Nat.mul_assoc, ← Nat.mul_add, hd]
  have step : 2 * den * (num / den + 1) = 2 * den * (num / den) + 2 * den := by
    rw [Nat.mul_add, Nat.mul_one]
  split
  · omega
  · rename_i hr
    simp only [Bool.or_eq_true, decide_eq_true_eq, Bool.and_eq_true, beq_iff_eq,
      not_or, not_and] at hr
    omega

end IfaceMonitor.Decimal
