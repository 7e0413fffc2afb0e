import IfaceMonitor.Proofs.Decimal.Magnitude
import IfaceMonitor.Proofs.Decimal.Order

namespace IfaceMonitor.Rounding
open Float.Model Float.Model.UnpackedFloat

theorem round_sign (s : Sign) (m : ℕ) (e : ℤ) :
    (UnpackedFloat.round Format.binary64 .positive m e = .zero .positive ∧
        UnpackedFloat.round Format.binary64 s m e = .zero s) ∨
      ∃ n f, ∃ positive : 0 < n,
        UnpackedFloat.round Format.binary64 .positive m e = .finite .positive n f positive ∧
        UnpackedFloat.round Format.binary64 s m e = .finite s n f positive :=
  roundWithAccuracy_sign s _ _ _

theorem stored_round (s : Sign) {m : ℕ} {e : ℤ} (positive : m ≠ 0) (least : -1074 ≤ e) :
    (∃ n f, ∃ positive : 0 < n, stored (UnpackedFloat.round Format.binary64 s m e) =
      .finite s n f positive) ∨
      stored (UnpackedFloat.round Format.binary64 s m e) = .infinity s := by
  obtain ⟨r, t, nearest, value⟩ := round_hasValue (e := e) positive
  have away : 0 < (r * 2 ^ t : ℚ) := by
    have whole : (1 : ℚ) ≤ m := by exact_mod_cast Nat.one_le_iff_ne_zero.2 positive
    have reached : ((1 : ℕ) * 2 ^ (-1074 : ℤ) : ℚ) ≤ m * 2 ^ e := by
      rw [Nat.cast_one]
      exact mul_le_mul whole (two_zpow_le least) (two_zpow_pos _).le (by positivity)
    have above := nearest.ge_of_fits (k := 1) (g := -1074) (by norm_num) le_rfl reached
    rw [Nat.cast_one, one_mul] at above
    exact (two_zpow_pos _).trans_le above
  rcases round_sign s m e with ⟨zero, -⟩ | ⟨n, f, nonzero, plain, signed⟩
  · rw [zero] at value
    generalize (r * 2 ^ t : ℚ) = y at value away
    cases value
    exact absurd rfl away.ne
  · rw [plain] at value
    rw [signed]
    generalize (r * 2 ^ t : ℚ) = y at value
    cases value with
    | finite _ canonical =>
      rcases le_or_gt f 971 with small | large
      · exact Or.inl ⟨n, f, nonzero, stored_finite s nonzero canonical small⟩
      · exact Or.inr (stored_overflow s nonzero large)

theorem compare_normalize {k e : ℤ} (least : -1074 ≤ e) (zeroSign : Sign) :
    (stored (UnpackedFloat.normalize Format.binary64 k e zeroSign)).compare (.zero .positive) =
      some (compare k 0) := by
  rw [UnpackedFloat.normalize]
  rcases lt_trichotomy k 0 with below | rfl | above
  · simp only [compare_lt_iff_lt.2 below]
    rcases stored_round .negative (m := (-k).toNat) (by omega) least
      with ⟨n, f, positive, same⟩ | same <;> rw [same] <;> rfl
  · simp only [compare_eq_iff_eq.2 (rfl : (0 : ℤ) = 0), stored_zero]
    rfl
  · simp only [compare_gt_iff_gt.2 above]
    rcases stored_round .positive (m := k.toNat) (by omega) least
      with ⟨n, f, positive, same⟩ | same <;> rw [same] <;> rfl

theorem compare_sub_zero (k l : ℤ) : compare (k - l) 0 = compare k l := by
  rw [← cmp_eq_compare, ← cmp_eq_compare, cmp_sub_zero]

theorem compare_aligned {m n : ℕ} {e f : ℤ} (h : Canonical m e) (h' : Canonical n f) :
    compare ((m <<< (e - min e f).toNat : ℕ) : ℤ) (n <<< (f - min e f).toNat : ℕ) =
      (compare e f).then (compare m n) := by
  have first := decreased m e (e - min e f).toNat
  have second := decreased n f (f - min e f).toNat
  rw [show e - ((e - min e f).toNat : ℤ) = min e f by omega] at first
  rw [show f - ((f - min e f).toNat : ℤ) = min e f by omega] at second
  have unit := two_zpow_pos (min e f)
  rcases lt_trichotomy e f with smaller | rfl | larger
  · have less := h.lt_of_lt h' smaller
    rw [← first, ← second, mul_lt_mul_iff_left₀ unit] at less
    rw [compare_lt_iff_lt.2 smaller, compare_lt_iff_lt.2 (by exact_mod_cast less)]
    rfl
  · rw [min_self, sub_self, Int.toNat_zero, Nat.shiftLeft_zero, Nat.shiftLeft_zero,
      compare_eq_iff_eq.2 rfl, Ordering.eq_then]
    exact Comparison.compare_natCast m n
  · have less := h'.lt_of_lt h larger
    rw [← first, ← second, mul_lt_mul_iff_left₀ unit] at less
    rw [compare_gt_iff_gt.2 larger, compare_gt_iff_gt.2 (by exact_mod_cast less)]
    rfl

theorem unpack_sub (a b : Float) :
    (a - b).toModel.unpack =
      stored (UnpackedFloat.sub Format.binary64 a.toModel.unpack b.toModel.unpack) :=
  rfl

theorem compare_sub_significands {m n : ℕ} {e f : ℤ} (h : Canonical m e) (h' : Canonical n f)
    (positive : 0 < m) (positive' : 0 < n) (s s' : Sign) :
    (stored (UnpackedFloat.sub Format.binary64 (.finite s m e positive)
      (.finite s' n f positive'))).compare (.zero .positive) =
      (UnpackedFloat.finite s m e positive).compare (.finite s' n f positive') := by
  have least : -1074 ≤ min e f := le_min h.2.1 h'.2.1
  have aligned := compare_aligned h h'
  simp only [UnpackedFloat.sub, decreaseExponent, compare_normalize least]
  have first : 0 < ((m <<< (e - min e f).toNat : ℕ) : ℤ) := by
    rw [Nat.shiftLeft_eq]
    positivity
  have second : 0 < ((n <<< (f - min e f).toNat : ℕ) : ℤ) := by
    rw [Nat.shiftLeft_eq]
    positivity
  generalize ((m <<< (e - min e f).toNat : ℕ) : ℤ) = k at aligned first ⊢
  generalize ((n <<< (f - min e f).toNat : ℕ) : ℤ) = l at aligned second ⊢
  cases s <;> cases s' <;> simp only [Sign.apply, UnpackedFloat.compare, ← aligned]
  · rw [neg_sub_neg, compare_sub_zero, ← cmp_eq_compare, ← cmp_eq_compare, cmp_swap]
  · rw [compare_lt_iff_lt.2 (by omega : -k - l < 0)]
  · rw [compare_gt_iff_gt.2 (by omega : 0 < k - -l)]
  · rw [compare_sub_zero]

theorem stored_notANumber : stored .notANumber = .notANumber :=
  rfl

variable {a b : Float}

theorem compare_sub (finite : a.isFinite = true) :
    (a - b).toModel.unpack.compare (.zero .positive) =
      a.toModel.unpack.compare b.toModel.unpack := by
  change a.toModel.unpack.isFinite = true at finite
  rw [unpack_sub]
  generalize first : a.toModel.unpack = u at finite ⊢
  generalize second : b.toModel.unpack = v
  cases u with
  | notANumber => cases finite
  | infinity => cases finite
  | zero s =>
    cases v with
    | notANumber => simp only [UnpackedFloat.sub, stored_notANumber, UnpackedFloat.compare]
    | infinity s' =>
      simp only [UnpackedFloat.sub, stored_infinity]
      cases s' <;> rfl
    | zero s' => cases s <;> cases s' <;> rfl
    | finite s' n f positive' =>
      obtain ⟨canonical, largest⟩ := canonical_of_unpack second
      simp only [UnpackedFloat.sub, stored_finite _ positive' canonical largest]
      cases s' <;> rfl
  | finite s m e positive =>
    obtain ⟨canonical, largest⟩ := canonical_of_unpack first
    cases v with
    | notANumber => simp only [UnpackedFloat.sub, stored_notANumber, UnpackedFloat.compare]
    | infinity s' =>
      simp only [UnpackedFloat.sub, stored_infinity]
      cases s <;> cases s' <;> rfl
    | zero s' =>
      simp only [UnpackedFloat.sub, stored_finite s positive canonical largest]
      cases s <;> rfl
    | finite s' n f positive' =>
      obtain ⟨canonical', -⟩ := canonical_of_unpack second
      exact compare_sub_significands canonical canonical' positive positive' s s'

theorem sub_le_zero_iff (finite : a.isFinite = true) : a - b ≤ 0.0 ↔ a ≤ b := by
  change (a - b).le 0.0 = true ↔ a.le b = true
  simp only [Float.le, decide_eq_true_iff]
  change ((a - b).toModel.unpack.compare (.zero .positive)).any (·.isLE) = true ↔
    (a.toModel.unpack.compare b.toModel.unpack).any (·.isLE) = true
  rw [compare_sub finite]

theorem sub_lt_zero_iff (finite : a.isFinite = true) : a - b < 0.0 ↔ a < b := by
  change (a - b).lt 0.0 = true ↔ a.lt b = true
  simp only [Float.lt, decide_eq_true_iff]
  change ((a - b).toModel.unpack.compare (.zero .positive) == some .lt) = true ↔
    (a.toModel.unpack.compare b.toModel.unpack == some .lt) = true
  rw [compare_sub finite]

end IfaceMonitor.Rounding
