import IfaceMonitor.Proofs.Decimal.Magnitude
import IfaceMonitor.Proofs.Decimal.Order

namespace IfaceMonitor

namespace Rounding
open Float.Model Float.Model.UnpackedFloat

theorem Nearest.mono {x y : ℚ} {r k : ℕ} {t g : ℤ} (h : Nearest x r t) (h' : Nearest y k g)
    (less : x < y) :
    (r * 2 ^ t : ℚ) ≤ k * 2 ^ g := by
  have ordered : t ≤ g := by
    rcases h.grid with least | reached
    · rw [least]
      exact h'.least
    · have powers : (2 : ℚ) ^ (52 + t) < 2 ^ (53 + g) := (reached.trans_lt less).trans h'.size
      have := (zpow_lt_zpow_iff_right₀ one_lt_two).1 powers
      omega
  rcases ordered.lt_or_eq with smaller | rfl
  · have full : (2 : ℚ) ^ (52 : ℤ) ≤ k := by
      exact_mod_cast h'.full.resolve_left (h.least.trans_lt smaller).ne'
    have carried : (r : ℚ) ≤ 2 ^ (53 : ℤ) := by exact_mod_cast h.le_full
    calc (r * 2 ^ t : ℚ)
      _ ≤ 2 ^ (53 : ℤ) * 2 ^ t := mul_le_mul_of_nonneg_right carried (two_zpow_pos t).le
      _ = 2 ^ (53 + t) := (two_zpow_add _ _).symm
      _ ≤ 2 ^ (52 + g) := two_zpow_le (by omega)
      _ = 2 ^ (52 : ℤ) * 2 ^ g := two_zpow_add _ _
      _ ≤ k * 2 ^ g := mul_le_mul_of_nonneg_right full (two_zpow_pos g).le
  · -- In one unit the midpoint of the two results would separate the numbers the wrong way.
    have unit := two_zpow_pos t
    have lower := (abs_le.1 h.near).1
    have upper := (abs_le.1 h'.near).2
    refine mul_le_mul_of_nonneg_right ?_ unit.le
    by_contra! more
    have whole : (k : ℚ) + 1 ≤ r := by exact_mod_cast more
    have apart : ((k : ℚ) + 1) * 2 ^ t ≤ r * 2 ^ t := mul_le_mul_of_nonneg_right whole unit.le
    linarith

theorem HasValue.magnitude {u : UnpackedFloat} {y : ℚ} (h : HasValue u y)
    (finite : (stored u).isFinite = true) :
    Magnitude (stored u) y := by
  cases h with
  | zero s => exact (Magnitude.zero s).packed
  | @finite m e positive canonical =>
    rcases le_or_gt e 971 with largest | large
    · exact (Magnitude.finite positive canonical largest).packed
    · rw [stored_overflow _ positive large] at finite
      cases finite

theorem magnitude_toFloat (n : UInt64) :
    ∃ r t, Nearest n.toNat r t ∧
      Magnitude n.toFloat.toModel.unpack ((r * 2 ^ t : ℚ) : WithTop ℚ) := by
  have finite : (stored
      (UnpackedFloat.normalize Format.binary64 (n.toNat : ℤ) 0 .positive)).isFinite = true :=
    isFinite_toFloat n
  change ∃ r t, _ ∧
    Magnitude (stored (UnpackedFloat.normalize Format.binary64 (n.toNat : ℤ) 0 .positive)) _
  rcases eq_or_ne n.toNat 0 with zero | positive
  · rw [zero]
    refine ⟨0, -1074, ⟨le_rfl, Or.inl rfl, ?_, ?_⟩, ?_⟩
    · exact_mod_cast two_zpow_pos _
    · rw [Nat.cast_zero, zero_mul, sub_zero, abs_zero]
      exact (half_pos (two_zpow_pos _)).le
    · rw [Nat.cast_zero (R := ℚ), zero_mul]
      exact (Magnitude.zero .positive).packed
  · rw [normalize_natCast positive] at finite ⊢
    obtain ⟨r, t, nearest, value⟩ := round_hasValue (e := 0) positive
    rw [zpow_zero, mul_one] at nearest
    exact ⟨r, t, nearest, value.magnitude finite⟩

end Rounding

open Rounding Comparison

variable {m n : UInt64}

theorem toFloat_mono (h : m ≤ n) : m.toFloat ≤ n.toFloat := by
  obtain ⟨r, t, nearest, value⟩ := magnitude_toFloat m
  rcases (UInt64.le_iff_toNat_le.1 h).eq_or_lt with same | less
  · obtain rfl := UInt64.toNat_inj.1 same
    exact (le_iff_magnitude value value).2 le_rfl
  · obtain ⟨k, g, nearest', value'⟩ := magnitude_toFloat n
    rw [le_iff_magnitude value value', WithTop.coe_le_coe]
    exact nearest.mono nearest' (by exact_mod_cast less)

theorem toFloat_lt_iff : m.toFloat < n.toFloat ↔ m < n ∧ (m.toFloat == n.toFloat) = false := by
  rw [lt_iff_le_and_not_beq]
  refine and_congr_left fun apart =>
    ⟨fun below => ?_, fun less => toFloat_mono (UInt64.le_of_lt less)⟩
  refine UInt64.not_le.1 fun within => ?_
  rw [beq_iff_le_and_le.2 ⟨below, toFloat_mono within⟩] at apart
  cases apart

namespace Rounding.Nearest
variable {N r : ℕ} {t : ℤ}

theorem eq_of_small (h : Nearest N r t) (small : N ≤ 2 ^ 53) : (r * 2 ^ t : ℚ) = N := by
  obtain ⟨k, g, fits, least, same⟩ : ∃ (k : ℕ) (g : ℤ), k < 2 ^ 53 ∧ -1074 ≤ g ∧
      (k * 2 ^ g : ℚ) = N := by
    rcases small.lt_or_eq with less | top
    · exact ⟨N, 0, less, by decide, by rw [zpow_zero, mul_one]⟩
    · exact ⟨2 ^ 52, 1, by decide, by decide, by rw [top]; norm_num⟩
  refine le_antisymm ?_ ?_
  · rw [← same]
    exact h.le_of_fits fits least same.ge
  · rw [← same]
    exact h.ge_of_fits fits least same.le

theorem near_of_word (h : Nearest N r t) (word : N < 2 ^ 64) :
    |(N - r * 2 ^ t : ℚ)| ≤ 2 ^ 10 := by
  have place : t ≤ 11 := by
    rcases h.grid with least | reached
    · omega
    · have below : (N : ℚ) < 2 ^ (64 : ℤ) := by exact_mod_cast word
      have := (zpow_lt_zpow_iff_right₀ one_lt_two).1 (reached.trans_lt below)
      omega
  calc |(N - r * 2 ^ t : ℚ)| ≤ 2 ^ t / 2 := h.near
    _ ≤ 2 ^ (11 : ℤ) / 2 := div_le_div_of_nonneg_right (two_zpow_le place) zero_le_two
    _ = 2 ^ 10 := by norm_num

end Rounding.Nearest

theorem near_of_same_double (less : m < n) (same : (m.toFloat == n.toFloat) = true) :
    2 ^ 53 ≤ m.toNat ∧ n.toNat ≤ m.toNat + 2 ^ 11 := by
  obtain ⟨r, t, nearest, value⟩ := magnitude_toFloat m
  obtain ⟨k, g, nearest', value'⟩ := magnitude_toFloat n
  rw [beq_iff_le_and_le, le_iff_magnitude value value', le_iff_magnitude value' value,
    ← le_antisymm_iff] at same
  have double : (r * 2 ^ t : ℚ) = k * 2 ^ g := WithTop.coe_inj.1 same
  rw [UInt64.lt_iff_toNat_lt] at less
  constructor
  · by_contra! small
    have kept := nearest.eq_of_small small.le
    rw [double] at kept
    rcases le_or_gt n.toNat (2 ^ 53) with small' | large
    · rw [nearest'.eq_of_small small', Nat.cast_inj] at kept
      exact less.ne' kept
    · have reached : ((2 ^ 52 : ℕ) * 2 ^ (1 : ℤ) : ℚ) ≤ n.toNat := by
        have := large.le
        norm_num
        exact_mod_cast this
      have above := nearest'.ge_of_fits (by decide) (by decide) reached
      rw [kept] at above
      norm_num at above
      have : 2 ^ 53 ≤ m.toNat := by exact_mod_cast above
      omega
  · have first := (abs_le.1 (nearest.near_of_word m.toNat_lt)).1
    have second := (abs_le.1 (nearest'.near_of_word n.toNat_lt)).2
    rw [double] at first
    have gap : (n.toNat : ℚ) ≤ m.toNat + 2 ^ 11 := by linarith
    exact_mod_cast gap

end IfaceMonitor
