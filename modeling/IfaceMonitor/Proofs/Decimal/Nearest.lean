import IfaceMonitor.Proofs.Rate.Finite

/-!
Rounding to the nearest double, as a statement on numbers. The bits behind a shifted significand
tell which half of the last place a number lies in (`Reads`), so rounding picks a multiple of the
last place that is no farther away than half of it (`Nearest`). From this alone rounding never
passes a number that needs none, and errs by a fraction of the number, however large this is.
-/

namespace IfaceMonitor.Rounding
open Float.Model Float.Model.UnpackedFloat

/-- What a significand and the bits behind it say about a number, in units of the last place. -/
def Reads (em : ExtendedMantissa) (x : ℚ) : Prop :=
  match em.roundBit, em.stickyBit with
  | false, false => x = em.mantissa
  | false, true => em.mantissa < x ∧ x < em.mantissa + 1 / 2
  | true, false => x = em.mantissa + 1 / 2
  | true, true => em.mantissa + 1 / 2 < x ∧ x < em.mantissa + 1

namespace Reads
variable {em : ExtendedMantissa} {x : ℚ}

theorem shiftRightOne (h : Reads em x) : Reads em.shiftRightOne (x / 2) := by
  obtain ⟨m, round, sticky⟩ := em
  have halves : ((m / 2 : ℕ) : ℚ) = (m - (m % 2 : ℕ)) / 2 := by
    have parts : ((m % 2 : ℕ) : ℚ) + 2 * ((m / 2 : ℕ) : ℚ) = m := by
      exact_mod_cast Nat.mod_add_div m 2
    linarith
  have odd : ((1 : ℕ) != 0) = true := rfl
  have even : ((0 : ℕ) != 0) = false := rfl
  rcases Nat.mod_two_eq_zero_or_one m with last | last <;> cases round <;> cases sticky <;>
    simp only [Reads, ExtendedMantissa.shiftRightOne, last, halves, odd, even, Bool.or_true,
      Bool.or_false] at h ⊢ <;>
    norm_num at h ⊢ <;> first | linarith | constructor <;> linarith

theorem shiftRight (h : Reads em x) (k : ℕ) : Reads (em >>> k) (x / 2 ^ k) := by
  induction k with
  | zero =>
    rw [pow_zero, div_one]
    exact h
  | succ k ih =>
    have step := ih.shiftRightOne
    rw [div_div, ← pow_succ] at step
    exact step

theorem bounds (h : Reads em x) : em.mantissa ≤ x ∧ x < em.mantissa + 1 := by
  obtain ⟨m, round, sticky⟩ := em
  cases round <;> cases sticky <;> simp only [Reads] at h ⊢ <;> constructor <;> linarith

theorem near (h : Reads em x) : |x - em.roundedMantissa| ≤ 1 / 2 := by
  obtain ⟨m, round, sticky⟩ := em
  rw [abs_le]
  cases round <;> cases sticky <;>
    simp only [Reads, ExtendedMantissa.roundedMantissa, ExtendedMantissa.accuracy,
      Accuracy.roundToNearestEven] at h ⊢
  · constructor <;> linarith
  · constructor <;> linarith
  · rcases Nat.mod_two_eq_zero_or_one m with last | last <;> rw [last] <;> push_cast <;>
      constructor <;> linarith
  · push_cast
    constructor <;> linarith

theorem exact (m : ℕ) : Reads (.ofMantissaAndAccuracy m .exact) m :=
  rfl

end Reads

/-- A number and the nearest multiple of a power of two, the power being the one for the size of the
number or the least of all. -/
structure Nearest (x : ℚ) (r : ℕ) (t : ℤ) : Prop where
  least : -1074 ≤ t
  grid : t = -1074 ∨ 2 ^ (52 + t) ≤ x
  size : x < 2 ^ (53 + t)
  near : |x - r * 2 ^ t| ≤ 2 ^ t / 2

theorem two_zpow_add (a b : ℤ) : (2 : ℚ) ^ (a + b) = 2 ^ a * 2 ^ b :=
  zpow_add₀ two_ne_zero a b

theorem two_zpow_pos (a : ℤ) : (0 : ℚ) < 2 ^ a :=
  zpow_pos two_pos a

theorem two_zpow_le {a b : ℤ} (h : a ≤ b) : (2 : ℚ) ^ a ≤ 2 ^ b :=
  zpow_le_zpow_right₀ one_le_two h

namespace Nearest
variable {x : ℚ} {r k : ℕ} {t g : ℤ}

theorem le_of_multiple (h : Nearest x r t) (below : k * 2 ^ t ≤ x) : k ≤ r := by
  have unit := two_zpow_pos t
  have upper := (abs_le.1 h.near).2
  by_contra! less
  have next : ((r : ℚ) + 1) * 2 ^ t ≤ k * 2 ^ t :=
    mul_le_mul_of_nonneg_right (by exact_mod_cast less) unit.le
  linarith

theorem le_multiple (h : Nearest x r t) (above : x ≤ k * 2 ^ t) : r ≤ k := by
  have unit := two_zpow_pos t
  have lower := (abs_le.1 h.near).1
  by_contra! less
  have next : ((k : ℚ) + 1) * 2 ^ t ≤ r * 2 ^ t :=
    mul_le_mul_of_nonneg_right (by exact_mod_cast less) unit.le
  linarith

theorem full (h : Nearest x r t) : t = -1074 ∨ 2 ^ 52 ≤ r := by
  refine h.grid.imp id fun large => h.le_of_multiple ?_
  rw [two_zpow_add] at large
  exact_mod_cast large

theorem le_full (h : Nearest x r t) : r ≤ 2 ^ 53 := by
  apply h.le_multiple
  have size := h.size
  rw [two_zpow_add] at size
  exact_mod_cast size.le

theorem multiple_of_le (smaller : t ≤ g) :
    ((k * 2 ^ (g - t).toNat : ℕ) : ℚ) * 2 ^ t = k * 2 ^ g := by
  have shifted : ((g - t).toNat : ℤ) + t = g := by omega
  push_cast
  rw [mul_assoc, ← zpow_natCast, ← two_zpow_add, shifted]

theorem small_of_lt (fits : k < 2 ^ 53) (larger : g < t) : (k : ℚ) * 2 ^ g < 2 ^ (52 + t) := by
  have bound : (k : ℚ) < 2 ^ (53 : ℤ) := by exact_mod_cast fits
  calc (k : ℚ) * 2 ^ g < 2 ^ (53 : ℤ) * 2 ^ g := mul_lt_mul_of_pos_right bound (two_zpow_pos g)
    _ = 2 ^ (53 + g) := (two_zpow_add _ _).symm
    _ ≤ 2 ^ (52 + t) := two_zpow_le (by omega)

theorem ge_of_fits (h : Nearest x r t) (fits : k < 2 ^ 53) (least : -1074 ≤ g)
    (below : k * 2 ^ g ≤ x) :
    (k : ℚ) * 2 ^ g ≤ r * 2 ^ t := by
  rcases le_or_gt t g with smaller | larger
  · rw [← multiple_of_le smaller] at below ⊢
    have counted := h.le_of_multiple below
    exact mul_le_mul_of_nonneg_right (by exact_mod_cast counted) (two_zpow_pos t).le
  · have counted : 2 ^ 52 ≤ r := h.full.resolve_left (by omega)
    have significand : (2 : ℚ) ^ (52 : ℤ) ≤ r := by exact_mod_cast counted
    calc (k : ℚ) * 2 ^ g ≤ 2 ^ (52 + t) := (small_of_lt fits larger).le
      _ = 2 ^ (52 : ℤ) * 2 ^ t := two_zpow_add _ _
      _ ≤ r * 2 ^ t := mul_le_mul_of_nonneg_right significand (two_zpow_pos t).le

theorem le_of_fits (h : Nearest x r t) (fits : k < 2 ^ 53) (least : -1074 ≤ g)
    (above : x ≤ k * 2 ^ g) :
    (r : ℚ) * 2 ^ t ≤ k * 2 ^ g := by
  rcases le_or_gt t g with smaller | larger
  · rw [← multiple_of_le smaller] at above ⊢
    have counted := h.le_multiple above
    exact mul_le_mul_of_nonneg_right (by exact_mod_cast counted) (two_zpow_pos t).le
  · have large : 2 ^ (52 + t) ≤ x := h.grid.resolve_left (by omega)
    exact absurd (large.trans above) (small_of_lt fits larger).not_ge

theorem large_of_one_le (h : Nearest x r t) (one_le : 1 ≤ x) : 2 ^ (52 + t) ≤ x := by
  refine h.grid.elim (fun least => ?_) id
  rw [least]
  exact (two_zpow_le (by norm_num : (52 + -1074 : ℤ) ≤ 0)).trans (by simpa using one_le)

theorem relative_error (h : Nearest x r t) (large : 2 ^ (52 + t) ≤ x) :
    |x - r * 2 ^ t| ≤ x * 2 ^ (-53 : ℤ) :=
  calc |x - r * 2 ^ t| ≤ 2 ^ t / 2 := h.near
    _ = 2 ^ (52 + t) * 2 ^ (-53 : ℤ) := by
      rw [← two_zpow_add, show 52 + t + -53 =
        t - 1 by ring, zpow_sub_one₀ two_ne_zero, div_eq_mul_inv]
    _ ≤ x * 2 ^ (-53 : ℤ) := mul_le_mul_of_nonneg_right large (two_zpow_pos _).le

theorem relative (h : Nearest x r t) (whole : x = k * 2 ^ (-1074 : ℤ)) :
    r * 2 ^ t ≤ x * (1 + 2 ^ (-53 : ℤ)) := by
  have nonneg : 0 ≤ x * 2 ^ (-53 : ℤ) := by
    rw [whole]
    positivity
  rcases h.grid with least | large
  · rw [least] at h ⊢
    have exact : (r : ℚ) ≤ k := by exact_mod_cast h.le_multiple whole.le
    have reached : (r : ℚ) * 2 ^ (-1074 : ℤ) ≤ x := by
      rw [whole]
      exact mul_le_mul_of_nonneg_right exact (two_zpow_pos _).le
    linarith
  · have lower := (abs_le.1 (h.relative_error large)).1
    linarith

end Nearest

def Canonical (m : ℕ) (e : ℤ) : Prop :=
  m < 2 ^ 53 ∧ -1074 ≤ e ∧ (e = -1074 ∨ 2 ^ 52 ≤ m)

inductive HasValue : UnpackedFloat → ℚ → Prop
  | zero (s : Sign) : HasValue (.zero s) 0
  | finite {m : ℕ} {e : ℤ} (positive : 0 < m) (canonical : Canonical m e) :
      HasValue (.finite .positive m e positive) (m * 2 ^ e)

theorem shiftToTargetExponent_fits {m : ℕ} {e : ℤ} (fits : m < 2 ^ 53) (least : -1074 ≤ e) :
    shiftToTargetExponent Format.binary64 m e .exact = (⟨m, false, false⟩, e) := by
  have digits : m.log2 ≤ 52 := by
    rcases Nat.eq_zero_or_pos m with rfl | positive
    · decide
    · exact Nat.lt_succ_iff.1 ((Nat.log2_lt positive.ne').2 fits)
  have amount : (Format.binary64.targetExponent (totalExponent m e) - e).toNat = 0 := by
    simp only [Format.targetExponent, totalExponent, Format.mantissaBits, Format.minExponent]
    norm_num
    omega
  simp only [shiftToTargetExponent, shiftToExponent, amount]
  exact Prod.ext rfl (add_zero e)

theorem shiftToTargetExponent_carry {e : ℤ} (least : -1074 ≤ e) :
    shiftToTargetExponent Format.binary64 (2 ^ 53) e .exact =
      (⟨2 ^ 52, false, false⟩, e + 1) := by
  have amount : (Format.binary64.targetExponent (totalExponent (2 ^ 53) e) - e).toNat = 1 := by
    simp only [Format.targetExponent, totalExponent, Nat.log2_two_pow, Format.mantissaBits,
      Format.minExponent]
    norm_num
    omega
  simp only [shiftToTargetExponent, shiftToExponent, amount]
  rfl

theorem nearest_shift {m : ℕ} {e : ℤ} {accuracy : Accuracy} {x : ℚ}
    (precise : 52 ≤ m.log2 ∨ e ≤ -1074)
    (reads : Reads (.ofMantissaAndAccuracy m accuracy) x) :
    Nearest (x * 2 ^ e) (shiftToTargetExponent Format.binary64 m e accuracy).1.roundedMantissa
      (shiftToTargetExponent Format.binary64 m e accuracy).2 := by
  have significand : (ExtendedMantissa.ofMantissaAndAccuracy m accuracy).mantissa = m := by
    rcases accuracy with _ | (_ | _ | _) <;> rfl
  obtain ⟨lower, upper⟩ := reads.bounds
  rw [significand] at lower upper
  simp only [shiftToTargetExponent, shiftToExponent]
  generalize amount : (Format.binary64.targetExponent (totalExponent m e) - e).toNat = k
  have place : e + k = max (m.log2 + e - 52) (-1074) := by
    rw [← amount]
    simp only [Format.targetExponent, totalExponent, Format.mantissaBits, Format.minExponent]
    norm_num
    omega
  -- Above the least exponent the significand is full; then its bound, then half a unit of error.
  refine ⟨by omega, ?_, ?_, ?_⟩
  · rcases eq_or_ne (e + (k : ℤ)) (-1074) with least | larger
    · exact Or.inl least
    · have positive : m ≠ 0 := by
        rintro rfl
        simp at place precise
        omega
      have digits : (2 : ℚ) ^ m.log2 ≤ m := by exact_mod_cast Nat.log2_self_le positive
      refine Or.inr ?_
      calc (2 : ℚ) ^ (52 + (e + k)) = 2 ^ (m.log2 : ℤ) * 2 ^ e := by
            rw [← two_zpow_add]
            congr 1
            omega
        _ ≤ x * 2 ^ e := by
            rw [zpow_natCast]
            exact mul_le_mul_of_nonneg_right (digits.trans lower) (two_zpow_pos e).le
  · have digits : ((m : ℚ) + 1) ≤ 2 ^ (m.log2 + 1) := by
      exact_mod_cast (Nat.lt_log2_self : m < _)
    calc x * 2 ^ e
      _ < 2 ^ (m.log2 + 1) * 2 ^ e :=
        mul_lt_mul_of_pos_right (upper.trans_le digits) (two_zpow_pos e)
      _ = 2 ^ (((m.log2 + 1 : ℕ) : ℤ) + e) := by rw [← zpow_natCast, two_zpow_add]
      _ ≤ 2 ^ (53 + (e + k)) := two_zpow_le (by omega)
  · have shifted : x * 2 ^ e = x / 2 ^ k * 2 ^ (e + k) := by
      rw [two_zpow_add, zpow_natCast]
      field_simp
    have error := (reads.shiftRight k).near
    rw [shifted, ← sub_mul, abs_mul, abs_of_pos (two_zpow_pos _)]
    calc |x / 2 ^ k - _| * 2 ^ (e + (k : ℤ)) ≤ 1 / 2 * 2 ^ (e + (k : ℤ)) :=
          mul_le_mul_of_nonneg_right error (two_zpow_pos _).le
      _ = 2 ^ (e + (k : ℤ)) / 2 := one_div_mul_eq_div _ _

theorem roundWithAccuracy_hasValue {m : ℕ} {e : ℤ} {accuracy : Accuracy} {x : ℚ}
    (precise : 52 ≤ m.log2 ∨ e ≤ -1074)
    (reads : Reads (.ofMantissaAndAccuracy m accuracy) x) :
    ∃ r t, Nearest (x * 2 ^ e) r t ∧
      HasValue (roundWithAccuracy Format.binary64 .positive m e accuracy) (r * 2 ^ t) := by
  have nearest := nearest_shift precise reads
  rw [roundWithAccuracy]
  generalize shiftToTargetExponent Format.binary64 m e accuracy = first at nearest ⊢
  obtain ⟨em, t⟩ := first
  refine ⟨em.roundedMantissa, t, nearest, ?_⟩
  dsimp only at nearest ⊢
  generalize em.roundedMantissa = r at nearest ⊢
  rcases nearest.le_full.lt_or_eq with fits | rfl
  · rw [shiftToTargetExponent_fits fits nearest.least]
    dsimp only
    split
    · next zero =>
      rw [zero, Nat.cast_zero, zero_mul]
      exact .zero _
    · exact .finite _ ⟨fits, nearest.least, nearest.full⟩
  · rw [shiftToTargetExponent_carry nearest.least]
    have carried : ((2 ^ 52 : ℕ) : ℚ) * 2 ^ (t + 1) = (2 ^ 53 : ℕ) * 2 ^ t := by
      rw [zpow_add_one₀ two_ne_zero]
      push_cast
      ring
    have least := nearest.least
    rw [← carried]
    exact .finite _ ⟨Nat.pow_lt_pow_right one_lt_two (Nat.lt_succ_self 52), by
      omega, Or.inr le_rfl⟩

end IfaceMonitor.Rounding
