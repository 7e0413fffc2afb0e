import Mathlib

namespace IfaceMonitor.Rounding
open Float.Model Float.Model.UnpackedFloat

def Below (bound : Int) (mantissa : Nat) (exponent : Int) : Prop :=
  mantissa.log2 + exponent ≤ bound

variable {bound exponent : Int} {mantissa : Nat}

theorem log2_half (n : Nat) : (n / 2).log2 = n.log2 - 1 := by
  conv_rhs => rw [Nat.log2_def]
  split
  · rw [Nat.add_sub_cancel]
  · next small =>
    rw [Nat.div_eq_of_lt (Nat.not_le.1 small)]
    rfl

theorem log2_double {n : Nat} (positive : n ≠ 0) : (2 * n).log2 = n.log2 + 1 := by
  rw [Nat.log2_def, if_pos (by omega), Nat.mul_div_cancel_left n Nat.two_pos]

theorem log2_shiftLeft {n : Nat} (positive : n ≠ 0) (k : Nat) : (n <<< k).log2 = n.log2 + k := by
  induction k with
  | zero => rfl
  | succ k ih =>
    have shifted : n <<< k ≠ 0 := by
      rw [Nat.shiftLeft_eq]
      exact Nat.mul_ne_zero positive (Nat.pow_pos Nat.two_pos).ne'
    rw [Nat.shiftLeft_succ, log2_double shifted, ih, Nat.add_assoc]

theorem log2_succ (n : Nat) : (n + 1).log2 ≤ n.log2 + 1 := by
  have upper : n < 2 ^ (n.log2 + 1) := Nat.lt_log2_self
  have wider : n + 1 < 2 ^ (n.log2 + 1 + 1) := by
    rw [Nat.pow_succ]
    omega
  exact Nat.lt_succ_iff.1 ((Nat.log2_lt (Nat.succ_ne_zero n)).2 wider)

theorem log2_shiftRight (em : ExtendedMantissa) (k : Nat) :
    (em >>> k).mantissa.log2 = em.mantissa.log2 - k := by
  induction k with
  | zero => rfl
  | succ k ih =>
    change ((em >>> k).mantissa / 2).log2 = _
    rw [log2_half, ih, Nat.sub_sub]

theorem log2_rounded (em : ExtendedMantissa) :
    em.roundedMantissa.log2 ≤ em.mantissa.log2 + 1 := by
  have range : em.roundedMantissa = em.mantissa ∨ em.roundedMantissa = em.mantissa + 1 := by
    rcases em with ⟨m, round, sticky⟩
    cases round <;> cases sticky <;>
      simp [ExtendedMantissa.roundedMantissa, ExtendedMantissa.accuracy,
        Accuracy.roundToNearestEven]
    omega
  rcases range with same | next
  · rw [same]
    exact Nat.le_succ _
  · rw [next]
    exact log2_succ _

theorem Below.decrease (below : Below bound mantissa exponent) (positive : mantissa ≠ 0)
    (target : Int) :
    Below bound (decreaseExponent mantissa exponent target).1
      (decreaseExponent mantissa exponent target).2 := by
  simp only [Below, decreaseExponent, log2_shiftLeft positive] at below ⊢
  omega

theorem Below.shift (below : Below bound mantissa exponent) (subnormal : -1074 ≤ bound)
    (accuracy : Accuracy) :
    Below bound (shiftToTargetExponent Format.binary64 mantissa exponent accuracy).1.mantissa
      (shiftToTargetExponent Format.binary64 mantissa exponent accuracy).2 := by
  have start : (ExtendedMantissa.ofMantissaAndAccuracy mantissa accuracy).mantissa = mantissa := by
    rcases accuracy with _ | (_ | _ | _) <;> rfl
  simp only [Below, shiftToTargetExponent, shiftToExponent, log2_shiftRight, start,
    Format.targetExponent, totalExponent, Format.mantissaBits, Format.minExponent] at below ⊢
  norm_num
  omega

theorem isFinite_unpack {b : BitVec Format.binary64.numBits}
    (bounded : unpackExponent b ≠ -1#11) :
    (UnpackedFloat.unpack Format.binary64 b).isFinite = true := by
  simp only [UnpackedFloat.unpack, if_neg bounded]
  split
  · split <;> rfl
  · rfl

theorem isFinite_pack {sign : Sign} (positive : 0 < mantissa) (small : exponent < 971) :
    (UnpackedFloat.unpack Format.binary64 (UnpackedFloat.pack Format.binary64
      (.finite sign mantissa exponent positive))).isFinite = true := by
  have range : (exponent + 1075).toNat < 2046 := by omega
  simp only [UnpackedFloat.pack, Format.exponentBias]
  norm_num
  rw [if_neg (by omega)]
  split
  · refine isFinite_unpack ?_
    rw [unpackExponent_packComponents]
    intro full
    have value := congrArg BitVec.toNat full
    simp at value
    omega
  · refine isFinite_unpack ?_
    rw [unpackExponent_packComponents]
    decide

theorem isFinite_roundWithAccuracy (sign : Sign) (accuracy : Accuracy)
    (below : Below bound mantissa exponent) (subnormal : -1074 ≤ bound) (small : bound < 970) :
    (UnpackedFloat.unpack Format.binary64 (UnpackedFloat.pack Format.binary64
      (roundWithAccuracy Format.binary64 sign mantissa exponent accuracy))).isFinite = true := by
  simp only [roundWithAccuracy]
  have first := below.shift subnormal accuracy
  generalize shiftToTargetExponent Format.binary64 mantissa exponent accuracy = shifted at first ⊢
  obtain ⟨em, lower⟩ := shifted
  have rounded : Below (bound + 1) em.roundedMantissa lower := by
    have carry := log2_rounded em
    simp only [Below] at first ⊢
    omega
  have second := rounded.shift (by omega) .exact
  generalize shiftToTargetExponent Format.binary64 em.roundedMantissa lower .exact =
    shifted at second ⊢
  obtain ⟨last, final⟩ := shifted
  dsimp only at second ⊢
  split
  · cases sign <;> rfl
  · refine isFinite_pack _ ?_
    simp only [Below] at second
    omega

end Rounding

open Rounding Float.Model Float.Model.UnpackedFloat in
theorem isFinite_toFloat (n : UInt64) : n.toFloat.isFinite = true := by
  change (UnpackedFloat.unpack Format.binary64 (UnpackedFloat.pack Format.binary64
    (UnpackedFloat.normalize Format.binary64 (n.toNat : Int) 0 .positive))).isFinite = true
  rw [UnpackedFloat.normalize]
  rcases Nat.eq_zero_or_pos n.toNat with zero | positive
  · rw [zero]
    rfl
  · have above : compare (n.toNat : Int) 0 = .gt := by
      rw [Int.compare_eq_gt]
      omega
    have width : n.toNat.log2 < 64 := (Nat.log2_lt positive.ne').2 n.toNat_lt
    have below : Below 63 n.toNat 0 := by
      simp only [Below]
      omega
    simp only [above, Int.toNat_natCast, UnpackedFloat.round]
    exact isFinite_roundWithAccuracy .positive .exact (below.decrease positive.ne' _)
      (by decide) (by decide)

end IfaceMonitor
