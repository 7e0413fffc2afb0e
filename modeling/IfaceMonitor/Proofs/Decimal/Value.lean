import IfaceMonitor.Proofs.Decimal.Magnitude
import IfaceMonitor.Proofs.Decimal.Order
import IfaceMonitor.Decimal.Binary

/-!
Doubles as rational numbers. A finite double stands for the binary fraction that its bits spell
(`ofFloat_of_finite`); doubles compare like these numbers (`lt_iff_value`), and a quotient of at
least one is off by a fraction of 2^-53 at most (`div_near`).
-/

namespace IfaceMonitor
open Float.Model Float.Model.UnpackedFloat

namespace Rounding

theorem toNat_unpackMantissa (b : BitVec Format.binary64.numBits) :
    (unpackMantissa b).toNat = b.toNat % 2 ^ 52 := by
  rw [unpackMantissa, BitVec.toNat_cast, BitVec.extractLsb_toNat, Nat.shiftRight_zero]
  rfl

theorem toNat_unpackExponent (b : BitVec Format.binary64.numBits) :
    (unpackExponent b).toNat = b.toNat / 2 ^ 52 % 2 ^ 11 := by
  rw [unpackExponent, BitVec.toNat_cast, BitVec.extractLsb_toNat, Nat.shiftRight_eq_div_pow]
  rfl

theorem toNat_unpackSign (b : BitVec Format.binary64.numBits) :
    (unpackSign b).toNat = b.toNat / 2 ^ 63 % 2 := by
  rw [unpackSign, BitVec.toNat_cast, BitVec.extractLsb_toNat, Nat.shiftRight_eq_div_pow]
  rfl

theorem ofBitVec_unpackSign (b : BitVec Format.binary64.numBits) :
    (Sign.ofBitVec (unpackSign b) == .negative) = decide (2 ^ 63 ≤ b.toNat) := by
  have sign := toNat_unpackSign b
  have bits : b.toNat < 2 ^ 64 := b.isLt
  by_cases high : 2 ^ 63 ≤ b.toNat
  · have one : unpackSign b ≠ 0#1 := by
      intro zero
      rw [zero] at sign
      change 0 = _ at sign
      omega
    rw [Sign.ofBitVec, if_neg one, decide_eq_true high]
    rfl
  · have zero : unpackSign b = 0#1 := by
      refine BitVec.eq_of_toNat_eq ?_
      rw [sign]
      change _ = 0
      omega
    rw [Sign.ofBitVec, if_pos zero, decide_eq_false high]
    rfl

def fieldsOf (b : BitVec Format.binary64.numBits) : Decimal.Binary :=
  { negative := 2 ^ 63 ≤ b.toNat
    significand :=
      if b.toNat / 2 ^ 52 % 2 ^ 11 = 0 then b.toNat % 2 ^ 52 else 2 ^ 52 + b.toNat % 2 ^ 52
    exponent :=
      if b.toNat / 2 ^ 52 % 2 ^ 11 =
      0 then -1074 else ((b.toNat / 2 ^ 52 % 2 ^ 11 : ℕ) : ℤ) - 1075 }

variable {b : BitVec Format.binary64.numBits} {s : Sign}

def numberFields : UnpackedFloat → Option Decimal.Binary
  | .finite s m e _ => some ⟨s == .negative, m, e⟩
  | .zero s => some ⟨s == .negative, 0, -1074⟩
  | _ => none

theorem fieldsOf_eq {fields : Decimal.Binary}
    (number : numberFields (UnpackedFloat.unpack Format.binary64 b) = some fields) :
    fieldsOf b = fields := by
  rw [fieldsOf, ← toNat_unpackExponent, ← toNat_unpackMantissa, ← ofBitVec_unpackSign]
  rw [UnpackedFloat.unpack] at number
  dsimp only at number
  split at number
  · split at number <;> cases number
  · split at number
    · next subnormal =>
      split at number
      · next nothing =>
        cases number
        rw [subnormal, nothing]
        rfl
      · cases number
        rw [subnormal]
        rfl
    · next normal =>
      cases number
      have nonzero : (unpackExponent b).toNat ≠ 0 := fun zero =>
        normal (BitVec.eq_of_toNat_eq zero)
      rw [if_neg nonzero, if_neg nonzero, BitVec.toNat_append,
        ← Nat.shiftLeft_add_eq_or_of_lt (unpackMantissa b).isLt]
      rfl

theorem fieldsOf_finite {m : ℕ} {e : ℤ} {positive : 0 < m}
    (unpacked : UnpackedFloat.unpack Format.binary64 b = .finite s m e positive) :
    fieldsOf b = ⟨s == .negative, m, e⟩ :=
  fieldsOf_eq (by rw [unpacked]; rfl)

theorem fieldsOf_zero (unpacked : UnpackedFloat.unpack Format.binary64 b = .zero s) :
    fieldsOf b = ⟨s == .negative, 0, -1074⟩ :=
  fieldsOf_eq (by rw [unpacked]; rfl)

end Rounding

namespace Decimal
open Rounding

variable {x : Float} {s : Sign} {m : ℕ} {e : ℤ} {positive : 0 < m}

theorem ofFloat_of_finite (unpacked : x.toModel.unpack = .finite s m e positive) :
    Binary.ofFloat x = ⟨s == .negative, m, e⟩ :=
  fieldsOf_finite unpacked

theorem ofFloat_of_zero (unpacked : x.toModel.unpack = .zero s) :
    Binary.ofFloat x = ⟨s == .negative, 0, -1074⟩ :=
  fieldsOf_zero unpacked

def Binary.sign (b : Binary) : ℚ :=
  if b.negative then -1 else 1

def Binary.magnitude (b : Binary) : ℚ :=
  b.significand * 2 ^ b.exponent

def value (x : Float) : ℚ :=
  (Binary.ofFloat x).sign * (Binary.ofFloat x).magnitude

theorem Binary.magnitude_nonneg (b : Binary) : 0 ≤ b.magnitude := by
  rw [Binary.magnitude]
  positivity

theorem abs_value (x : Float) : |value x| = (Binary.ofFloat x).magnitude := by
  rw [value, abs_mul, abs_of_nonneg (Binary.magnitude_nonneg _), Binary.sign]
  split <;> simp

theorem value_of_zero (unpacked : x.toModel.unpack = .zero s) : value x = 0 := by
  rw [value, ofFloat_of_zero unpacked, Binary.magnitude]
  simp

theorem value_of_negative (unpacked : x.toModel.unpack = .finite .negative m e positive) :
    value x = -(m * 2 ^ e) := by
  rw [value, ofFloat_of_finite unpacked]
  exact neg_one_mul _

theorem value_of_positive (unpacked : x.toModel.unpack = .finite .positive m e positive) :
    value x = m * 2 ^ e := by
  rw [value, ofFloat_of_finite unpacked]
  exact one_mul _

theorem abs_value_of_finite (unpacked : x.toModel.unpack = .finite s m e positive) :
    |value x| = m * 2 ^ e := by
  rw [abs_value, ofFloat_of_finite unpacked, Binary.magnitude]

theorem cases_of_isFinite (finite : x.isFinite = true) :
    (∃ s, x.toModel.unpack = .zero s) ∨
      ∃ s m e, ∃ positive : 0 < m, x.toModel.unpack = .finite s m e positive ∧
        Canonical m e ∧ e ≤ 971 := by
  change x.toModel.unpack.isFinite = true at finite
  cases unpacked : x.toModel.unpack with
  | notANumber | infinity =>
    rw [unpacked] at finite
    cases finite
  | zero s => exact .inl ⟨s, rfl⟩
  | finite s m e positive => exact .inr ⟨s, m, e, positive, rfl, canonical_of_unpack unpacked⟩

theorem cmp_canonical {m n : ℕ} {e f : ℤ} (h : Canonical m e) (h' : Canonical n f) :
    cmp (m * 2 ^ e : ℚ) (n * 2 ^ f) = (compare e f).then (compare m n) := by
  rcases lt_trichotomy e f with smaller | rfl | larger
  · rw [compare_lt_iff_lt.2 smaller, (cmp_eq_lt_iff _ _).2 (h.lt_of_lt h' smaller)]
    rfl
  · rw [compare_eq_iff_eq.2 rfl, Ordering.eq_then, ← cmp_eq_compare]
    exact ((Nat.strictMono_cast (α := ℚ)).mul_const (two_zpow_pos e)).cmp_map_eq m n
  · rw [compare_gt_iff_gt.2 larger, (cmp_eq_gt_iff _ _).2 (h'.lt_of_lt h larger)]
    rfl

theorem compare_eq_cmp_value {y : Float} (hx : x.isFinite = true) (hy : y.isFinite = true) :
    x.toModel.unpack.compare y.toModel.unpack = some (cmp (value x) (value y)) := by
  have above {m : ℕ} (e : ℤ) (positive : 0 < m) : (0 : ℚ) < m * 2 ^ e := by positivity
  have less {p q : ℚ} (h : p < q) : some Ordering.lt = some (cmp p q) :=
    congrArg some ((cmp_eq_lt_iff _ _).2 h).symm
  have greater {p q : ℚ} (h : q < p) : some Ordering.gt = some (cmp p q) :=
    congrArg some ((cmp_eq_gt_iff _ _).2 h).symm
  rcases cases_of_isFinite hx with ⟨s, first⟩ | ⟨s, m, e, positive, first, canonical, -⟩ <;>
    rcases cases_of_isFinite hy
      with ⟨s', second⟩ | ⟨s', n, f, positive', second, canonical', -⟩
  · rw [first, second, value_of_zero first, value_of_zero second, cmp_self_eq_eq]
    rfl
  · rw [first, second, value_of_zero first]
    cases s'
    · rw [value_of_negative second]
      exact greater (neg_neg_of_pos (above f positive'))
    · rw [value_of_positive second]
      exact less (above f positive')
  · rw [first, second, value_of_zero second]
    cases s
    · rw [value_of_negative first]
      exact less (neg_neg_of_pos (above e positive))
    · rw [value_of_positive first]
      exact greater (above e positive)
  · rw [first, second]
    cases s <;> cases s'
    · rw [value_of_negative first, value_of_negative second, UnpackedFloat.compare,
        ← cmp_canonical canonical canonical', cmp_swap]
      simp only [cmp, cmpUsing, neg_lt_neg_iff]
    · rw [value_of_negative first, value_of_positive second]
      exact less ((neg_neg_of_pos (above e positive)).trans (above f positive'))
    · rw [value_of_positive first, value_of_negative second]
      exact greater ((neg_neg_of_pos (above f positive')).trans (above e positive))
    · rw [value_of_positive first, value_of_positive second, cmp_canonical canonical canonical']
      rfl

theorem lt_iff_value {y : Float} (hx : x.isFinite = true) (hy : y.isFinite = true) :
    x < y ↔ value x < value y := by
  change x.lt y = true ↔ _
  rw [Float.lt, decide_eq_true_iff, ← cmp_eq_lt_iff]
  change (x.toModel.unpack.compare y.toModel.unpack == some .lt) = true ↔ _
  rw [compare_eq_cmp_value hx hy, beq_iff_eq, Option.some.injEq]

theorem le_iff_value {y : Float} (hx : x.isFinite = true) (hy : y.isFinite = true) :
    x ≤ y ↔ value x ≤ value y := by
  change x.le y = true ↔ _
  rw [Float.le, decide_eq_true_iff, ← not_lt, ← cmp_eq_gt_iff]
  change (x.toModel.unpack.compare y.toModel.unpack).any (·.isLE) = true ↔ _
  rw [compare_eq_cmp_value hx hy, Option.any_some]
  cases cmp (value x) (value y) <;> decide

theorem unpack_abs (x : Float) : x.abs.toModel.unpack = stored x.toModel.unpack.abs :=
  rfl

theorem abs_finite (finite : x.isFinite = true) :
    x.abs.isFinite = true ∧ value x.abs = |value x| := by
  change x.abs.toModel.unpack.isFinite = true ∧ _
  rcases cases_of_isFinite finite
    with ⟨s, unpacked⟩ | ⟨s, m, e, positive, unpacked, canonical, largest⟩
  · have same : x.abs.toModel.unpack = .zero .positive := by
      rw [unpack_abs, unpacked]
      exact stored_zero .positive
    rw [same, value_of_zero same, value_of_zero unpacked, abs_zero]
    exact ⟨rfl, rfl⟩
  · have same : x.abs.toModel.unpack = .finite .positive m e positive := by
      rw [unpack_abs, unpacked]
      exact stored_finite .positive positive canonical largest
    rw [same, value_of_positive same, abs_value_of_finite unpacked]
    exact ⟨rfl, rfl⟩

theorem exponent_le_of_value_le {m k : ℕ} {e g : ℤ} (canonical : Canonical m e)
    (largest : e ≤ 971) (canonical' : Canonical k g) (bounded : (k * 2 ^ g : ℚ) ≤ m * 2 ^ e) :
    g ≤ 971 := by
  by_contra! large
  exact (canonical.lt_of_lt canonical' (largest.trans_lt large)).not_ge bounded

theorem div_sign (s : Sign) {m n : ℕ} {e f : ℤ} (positive : 0 < m) (positive' : 0 < n) {k : ℕ}
    {g : ℤ} {above : 0 < k}
    (quotient : UnpackedFloat.div Format.binary64 (.finite .positive m e positive)
      (.finite .positive n f positive') = .finite .positive k g above) :
    UnpackedFloat.div Format.binary64 (.finite s m e positive) (.finite .positive n f positive') =
      .finite s k g above := by
  have divided : s / Sign.positive = s := by cases s <;> rfl
  have alone : Sign.positive / Sign.positive = Sign.positive := rfl
  simp only [UnpackedFloat.div, divided, alone] at quotient ⊢
  rcases roundWithAccuracy_sign s _ _ _ with ⟨zero, -⟩ | ⟨_, _, _, plain, signed⟩
  · rw [zero] at quotient
    cases quotient
  · rw [plain] at quotient
    cases quotient
    exact signed

theorem exists_quotient {m n : ℕ} {e f : ℤ} (positive : 0 < m) (positive' : 0 < n)
    (canonical : Canonical m e) (largest : e ≤ 971) (one_le : (1 : ℚ) ≤ n * 2 ^ f)
    (large : (n * 2 ^ f : ℚ) ≤ m * 2 ^ e) :
    ∃ k g, ∃ above : 0 < k, UnpackedFloat.div Format.binary64 (.finite .positive m e positive)
      (.finite .positive n f positive') =
        .finite .positive k g above ∧ Canonical k g ∧ g ≤ 971 ∧ (1 : ℚ) ≤ k * 2 ^ g ∧
        |(k * 2 ^ g * (n * 2 ^ f) - m * 2 ^ e : ℚ)| ≤ m * 2 ^ e * 2 ^ (-53 : ℤ) := by
  obtain ⟨r, t, nearest, rounded⟩ := div_hasValue (e := e) (f := f) positive positive'
  have unit : (0 : ℚ) < n * 2 ^ f := by positivity
  have above : (0 : ℚ) < m * 2 ^ e := by positivity
  have reached : (1 : ℚ) ≤ m * 2 ^ e / (n * 2 ^ f) := (one_le_div unit).2 large
  have lower : (1 : ℚ) ≤ r * 2 ^ t := by
    have kept :=
      nearest.ge_of_fits (k := 1) (g := 0) (by norm_num) (by norm_num) (by simpa using reached)
    simpa using kept
  have upper : (r * 2 ^ t : ℚ) ≤ m * 2 ^ e :=
    nearest.le_of_fits canonical.1 canonical.2.1 (div_le_self above.le one_le)
  have error := nearest.relative_error (nearest.large_of_one_le reached)
  generalize (r * 2 ^ t : ℚ) = z at rounded lower upper error
  generalize quotient : UnpackedFloat.div Format.binary64 (.finite .positive m e positive)
    (.finite .positive n f positive') = u
    at rounded
  cases rounded with
  | zero => exact absurd lower (by norm_num)
  | @finite k g nonzero canonical' =>
    refine ⟨k, g, nonzero, rfl, canonical',
      exponent_le_of_value_le canonical largest canonical' upper, lower, ?_⟩
    have scaled : (k * 2 ^ g * (n * 2 ^ f) - m * 2 ^ e : ℚ) =
        -((m * 2 ^ e / (n * 2 ^ f) - k * 2 ^ g) * (n * 2 ^ f)) := by
      field_simp
      ring
    rw [scaled, abs_neg, abs_mul, abs_of_pos unit]
    calc |(m * 2 ^ e / (n * 2 ^ f) - k * 2 ^ g : ℚ)| * (n * 2 ^ f)
        ≤ m * 2 ^ e / (n * 2 ^ f) * 2 ^ (-53 : ℤ) * (n * 2 ^ f) :=
          mul_le_mul_of_nonneg_right error unit.le
      _ = m * 2 ^ e * 2 ^ (-53 : ℤ) := by field_simp

theorem div_near {y : Float} {n : ℕ} {f : ℤ} {positive' : 0 < n} (finite : x.isFinite = true)
    (divisor : y.toModel.unpack = .finite .positive n f positive') (one_le : 1 ≤ value y)
    (large : value y ≤ |value x|) :
    (x / y).isFinite = true ∧ 1 ≤ |value (x / y)| ∧
      |value (x / y) * value y - value x| ≤ |value x| * 2 ^ (-53 : ℤ) := by
  change (x / y).toModel.unpack.isFinite = true ∧ _
  rcases cases_of_isFinite finite
    with ⟨s, unpacked⟩ | ⟨s, m, e, positive, unpacked, canonical, largest⟩
  · rw [value_of_zero unpacked, abs_zero] at large
    linarith
  · rw [abs_value_of_finite unpacked] at large ⊢
    rw [value_of_positive divisor] at one_le large ⊢
    obtain ⟨k, g, nonzero, quotient, canonical', largest', lower, error⟩ :=
      exists_quotient positive positive' canonical largest one_le large
    have same : (x / y).toModel.unpack = .finite s k g nonzero := by
      rw [unpack_div, unpacked, divisor, div_sign s positive positive' quotient,
        stored_finite s nonzero canonical' largest']
    rw [abs_value_of_finite same, same]
    refine ⟨rfl, lower, ?_⟩
    cases s
    · rwa [value_of_negative same, value_of_negative unpacked, neg_mul, neg_sub_neg, abs_sub_comm]
    · rwa [value_of_positive same, value_of_positive unpacked]

end Decimal
end IfaceMonitor
