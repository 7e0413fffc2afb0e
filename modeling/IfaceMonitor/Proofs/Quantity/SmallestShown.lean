import IfaceMonitor.Proofs.Decimal.Value
import IfaceMonitor.Quantity

/-!
The bound below which numbers are not written out. It is a computed power of a tenth and mostly a
bit off, but no double lies between it and the exact power (`abs_lt_of_lt_smallestShown`). Powers
with many places are beyond all doubles, so that their bound is zero.
-/

namespace IfaceMonitor

namespace Rounding
open Float.Model Float.Model.UnpackedFloat

theorem Canonical.le_before {m n : ℕ} {e f : ℤ} (h : Canonical m e) (h' : Canonical n f)
    (inside : e = -1074 ∨ 2 ^ 52 < m) (below : (n * 2 ^ f : ℚ) < m * 2 ^ e) :
    (n * 2 ^ f : ℚ) ≤ (m - 1 : ℕ) * 2 ^ e := by
  rcases lt_trichotomy f e with smaller | rfl | larger
  · have least := h'.2.1
    have before : 2 ^ 52 ≤ m - 1 := by omega
    calc (n * 2 ^ f : ℚ) ≤ 2 ^ (52 + e) := (Nearest.small_of_lt h'.1 smaller).le
      _ = 2 ^ (52 : ℤ) * 2 ^ e := two_zpow_add _ _
      _ ≤ (m - 1 : ℕ) * 2 ^ e :=
        mul_le_mul_of_nonneg_right (by exact_mod_cast before) (two_zpow_pos e).le
  · have fewer : n < m := by exact_mod_cast lt_of_mul_lt_mul_right below (two_zpow_pos f).le
    have before : n ≤ m - 1 := by omega
    exact mul_le_mul_of_nonneg_right (by exact_mod_cast before) (two_zpow_pos f).le
  · exact absurd below (h.lt_of_lt h' larger).not_gt

def Reaches (x : Float) (a : ℕ) : Prop :=
  ∃ z, Magnitude x.toModel.unpack z ∧ ((2 ^ a : ℚ) : WithTop ℚ) ≤ z

theorem reaches_mul {x y : Float} {a b : ℕ} (h : Reaches x a) (h' : Reaches y b) :
    Reaches (x * y) (a + b) := by
  obtain ⟨p, first, least⟩ := h
  obtain ⟨q, second, least'⟩ := h'
  have one_le (k : ℕ) : (1 : ℚ) ≤ 2 ^ k := one_le_pow₀ one_le_two
  have positive {k : ℕ} (small : ((2 ^ k : ℚ) : WithTop ℚ) ≤ 0) : False :=
    absurd (WithTop.coe_le_coe.1 small) (not_le.2 (by positivity))
  have infinite {k : ℕ} :
      ∃ z, Magnitude (stored (.infinity .positive)) z ∧ ((2 ^ k : ℚ) : WithTop ℚ) ≤ z :=
    ⟨⊤, Magnitude.infinity.packed, le_top⟩
  rw [Reaches, unpack_mul]
  generalize x.toModel.unpack = u at first ⊢
  generalize y.toModel.unpack = v at second ⊢
  -- Infinity reaches every power, so only two finite factors are left to be rounded.
  cases first with
  | zero => exact (positive least).elim
  | infinity =>
    cases second with
    | zero => exact (positive least').elim
    | finite | infinity => exact infinite
  | @finite m e nonzero =>
    cases second with
    | zero => exact (positive least').elim
    | infinity => exact infinite
    | @finite n f nonzero' canonical' =>
      have least := WithTop.coe_le_coe.1 least
      have least' := WithTop.coe_le_coe.1 least'
      obtain ⟨z, magnitude, rounds⟩ :=
        rounds_mul (e := e) (f := f) nonzero nonzero'
          (canonical'.full_of_one_le ((one_le b).trans least'))
      have below : ((1 : ℕ) * 2 ^ ((a + b : ℕ) : ℤ) : ℚ) ≤ m * 2 ^ e * (n * 2 ^ f) := by
        rw [Nat.cast_one, one_mul, zpow_natCast, pow_add]
        exact mul_le_mul least least' (by positivity) (by positivity)
      have reached := rounds.lower (by decide) (by omega) below
      rw [Nat.cast_one, one_mul, zpow_natCast] at reached
      exact ⟨z, magnitude, reached⟩

theorem unpack_of_reaches {x : Float} {a : ℕ} (h : Reaches x a) (large : 1024 ≤ a) :
    x.toModel.unpack = .infinity .positive := by
  obtain ⟨z, magnitude, reached⟩ := h
  have beyond : (2 : ℚ) ^ 1024 ≤ 2 ^ a := pow_le_pow_right₀ one_le_two large
  generalize x.toModel.unpack = u at magnitude ⊢
  cases magnitude with
  | zero => exact absurd (WithTop.coe_le_coe.1 reached) (not_le.2 (by positivity))
  | @finite m e positive canonical largest =>
    have bounded : (m * 2 ^ e : ℚ) < 2 ^ (52 + 972 : ℤ) :=
      Nearest.small_of_lt canonical.1 (by omega)
    have reached := beyond.trans (WithTop.coe_le_coe.1 reached)
    exact absurd (reached.trans_lt bounded) (by norm_num)
  | infinity => rfl

end Rounding

namespace Quantity
open Rounding Decimal Float.Model

theorem reaches_powerFrom {result base : Float} {a b n fuel : ℕ} (h : Reaches result a)
    (h' : Reaches base b) (enough : n < 2 ^ fuel) :
    Reaches (powerFrom result base n fuel) (a + b * n) := by
  -- the result and the base reach what the exponent has left
  induction fuel generalizing result base a b n with
  | zero =>
    obtain rfl : n = 0 := by omega
    exact h
  | succ fuel ih =>
    have parts := Nat.div_add_mod n 2
    have step : Reaches (if n % 2 == 1 then result * base else result) (a + b * (n % 2)) := by
      rcases Nat.mod_two_eq_zero_or_one n with even | odd
      · rw [even]
        exact h
      · rw [odd, mul_one]
        exact reaches_mul h h'
    rw [powerFrom]
    generalize (if n % 2 == 1 then result * base else result) = next at step ⊢
    split
    · next last =>
      have whole : n = n % 2 := by
        have := beq_iff_eq.1 last
        omega
      rw [whole]
      exact step
    · have rest := ih step (reaches_mul h' h') (n := n / 2) (by omega)
      have exponent : a + b * (n % 2) + (b + b) * (n / 2) = a + b * n := by
        conv_rhs => rw [← parts]
        ring
      rwa [exponent] at rest

theorem smallestShown_of_many {places : ℕ} (many : 342 ≤ places) (small : places < 2 ^ 64) :
    (smallestShown places).toModel.unpack = .zero .positive := by
  have one : Magnitude (1.0 : Float).toModel.unpack ((2 ^ 52 : ℕ) * 2 ^ (-52 : ℤ) : ℚ) :=
    .finite (by decide) ⟨by decide, by decide, Or.inr le_rfl⟩ (by decide)
  have ten : Magnitude (10.0 : Float).toModel.unpack ((5 * 2 ^ 50 : ℕ) * 2 ^ (-49 : ℤ) : ℚ) :=
    .finite (by decide) ⟨by decide, by decide, Or.inr (by decide)⟩ (by decide)
  have reachesOne : Reaches 1.0 0 := ⟨_, one, WithTop.coe_le_coe.2 (by norm_num)⟩
  have reachesTen : Reaches 10.0 3 := ⟨_, ten, WithTop.coe_le_coe.2 (by norm_num)⟩
  have power := unpack_of_reaches (reaches_powerFrom reachesOne reachesTen small) (by omega)
  rw [smallestShown, if_neg (by omega), unpack_div, power]
  rfl

def tight (places : ℕ) : Bool :=
  let bound := Binary.ofFloat (smallestShown places)
  (smallestShown places).isFinite && !bound.negative && decide (bound.exponent ≤ 0) &&
    (bound.significand == 0 || (bound.exponent == -1074 || decide (2 ^ 52 < bound.significand)) &&
      decide ((bound.significand - 1) * 10 ^ places < 2 ^ (-bound.exponent).toNat))

theorem tight_of_lt : ∀ places < 342, 1 ≤ places → tight places = true := by
  -- a bound on the error of the powers is larger than the gap, so they are all computed
  decide +kernel

theorem lt_of_tight {x : Float} (finite : x.isFinite = true) {places : ℕ}
    (gap : tight places = true) (below : |value x| < value (smallestShown places)) :
    |value x| < 1 / 10 ^ places := by
  have positive : (0 : ℚ) < 10 ^ places := by positivity
  simp only [tight, Bool.and_eq_true, Bool.or_eq_true, Bool.not_eq_true', decide_eq_true_eq,
    beq_iff_eq] at gap
  obtain ⟨⟨⟨finite', nonneg⟩, exponent⟩, gap⟩ := gap
  rcases cases_of_isFinite finite' with ⟨s, bound⟩ | ⟨s, m, e, some, bound, canonical, -⟩
  · rw [value_of_zero bound] at below
    exact absurd below (abs_nonneg _).not_gt
  · rw [ofFloat_of_finite bound] at nonneg exponent gap
    obtain rfl : s = .positive := by cases s <;> first | rfl | cases nonneg
    rw [value_of_positive bound] at below
    obtain ⟨inside, before⟩ := gap.resolve_left some.ne'
    have least : ((m - 1 : ℕ) * 2 ^ e : ℚ) < 1 / 10 ^ places := by
      have scale : (2 ^ e : ℚ) = 1 / 2 ^ (-e).toNat := by
        rw [← zpow_natCast, Int.toNat_of_nonneg (neg_nonneg.2 exponent), zpow_neg,
          one_div, inv_inv]
      have before : ((m - 1 : ℕ) * 10 ^ places : ℚ) < 2 ^ (-e).toNat := by exact_mod_cast before
      rw [scale, mul_one_div, div_lt_div_iff₀ (by positivity) positive, one_mul]
      exact before
    rcases cases_of_isFinite finite with ⟨s', number⟩ | ⟨s', n, f, _, number, canonical', -⟩
    · rw [value_of_zero number, abs_zero]
      positivity
    · rw [abs_value_of_finite number] at below ⊢
      exact (canonical.le_before canonical' inside below).trans_lt least

theorem abs_lt_of_lt_smallestShown {x : Float} (finite : x.isFinite = true) {places : ℕ}
    (some_place : 1 ≤ places) (small : places < 2 ^ 64) (below : x.abs < smallestShown places) :
    |value x| < 1 / 10 ^ places := by
  obtain ⟨finiteAbs, magnitude⟩ := abs_finite finite
  rcases lt_or_ge places 342 with few | many
  · have gap := tight_of_lt places few some_place
    have finite' : (smallestShown places).isFinite = true := by
      simp only [tight, Bool.and_eq_true] at gap
      exact gap.1.1.1
    rw [lt_iff_value finiteAbs finite', magnitude] at below
    exact lt_of_tight finite gap below
  · have zero := smallestShown_of_many many small
    have finite' : (smallestShown places).isFinite = true := by
      change (smallestShown places).toModel.unpack.isFinite = true
      rw [zero]
      rfl
    rw [lt_iff_value finiteAbs finite', magnitude, value_of_zero zero] at below
    exact absurd below (abs_nonneg _).not_gt

end Quantity
end IfaceMonitor
