import IfaceMonitor.Proofs.Decimal.Numeral
import IfaceMonitor.Proofs.Text.Digits
import IfaceMonitor.Quantity

/-!
Three digits of a scaled number. Each division by a thousand adds one rounding (`scaleDown_near`),
and the places are chosen such that three digits are left (`hundred_le_fixedUnits`). They are chosen
before the number is rounded, so there is a fourth digit just below ten, a hundred and a thousand;
and the sign counts when they are chosen, so most negative numbers have more digits, too
(`scaleToUnit_threeDigits_iff`).
-/

namespace IfaceMonitor.Quantity
open Decimal Rounding Float.Model

variable {x : Float}

theorem unpack_thousand :
    (1000.0 : Float).toModel.unpack = .finite .positive 8796093022208000 (-43) (by decide) :=
  rfl

theorem value_thousand : value 1000.0 = 1000 := by
  rw [value_of_positive unpack_thousand]
  norm_num

theorem abs_mul_sub_le {a b u z : ℚ} (nonneg : 0 ≤ u) :
    |a * u - z| ≤ |a - b| * u + |b * u - z| := by
  have moved := abs_sub_le (a * u) (b * u) z
  rwa [← sub_mul, abs_mul, abs_of_nonneg nonneg] at moved

theorem scaled_error {r y z ε : ℚ} {k : ℕ} (nonneg : 0 ≤ ε)
    (first : |y * 1000 - z| ≤ |z| * ε) (rest : |r * 1000 ^ k - y| ≤ |y| * ((1 + ε) ^ k - 1)) :
    |r * 1000 ^ (k + 1) - z| ≤ |z| * ((1 + ε) ^ (k + 1) - 1) := by
  have grown : 0 ≤ (1 + ε) ^ k - 1 := sub_nonneg.2 (one_le_pow₀ (by linarith))
  have bounded : |y| * 1000 ≤ |z| * (1 + ε) := by
    have parts := abs_sub_abs_le_abs_sub (y * 1000) z
    rw [abs_mul, abs_of_pos (by norm_num : (0 : ℚ) < 1000)] at parts
    linarith
  calc |r * 1000 ^ (k + 1) - z| ≤ |r * 1000 ^ k - y| * 1000 + |y * 1000 - z| := by
        rw [pow_succ, ← mul_assoc]
        exact abs_mul_sub_le (by norm_num)
    _ ≤ |y| * ((1 + ε) ^ k - 1) * 1000 + |z| * ε := by gcongr
    _ = |y| * 1000 * ((1 + ε) ^ k - 1) + |z| * ε := by ring
    _ ≤ |z| * (1 + ε) * ((1 + ε) ^ k - 1) + |z| * ε := by gcongr
    _ = |z| * ((1 + ε) ^ (k + 1) - 1) := by ring

theorem scaleDown_near (finite : x.isFinite = true) (one_le : 1 ≤ |value x|) (unit : String)
    (larger : List String) :
    ∃ k, (unit :: larger)[k]? = some (scaleDown x unit larger).2 ∧
      (scaleDown x unit larger).1.isFinite = true ∧
      1 ≤ |value (scaleDown x unit larger).1| ∧
      |value (scaleDown x unit larger).1 * 1000 ^ k - value x| ≤
          |value x| * ((1 + 2 ^ (-53 : ℤ)) ^ k - 1) := by
  -- the error of one division and that of the rest, whose exact number is the rounded quotient
  induction larger generalizing x unit with
  | nil => exact ⟨0, rfl, finite, one_le, by simp [scaleDown]⟩
  | cons next larger ih =>
    rw [scaleDown]
    split
    · next large =>
      obtain ⟨finiteAbs, magnitude⟩ := abs_finite finite
      have large : value 1000.0 ≤ |value x| := by
        rw [← magnitude]
        exact (le_iff_value rfl finiteAbs).1 large
      obtain ⟨finite', one_le', error⟩ :=
        div_near finite unpack_thousand (by rw [value_thousand]; norm_num) large
      obtain ⟨k, found, result, least, rest⟩ := ih finite' one_le' next
      refine ⟨k + 1, found, result, least, ?_⟩
      rw [value_thousand] at error
      exact scaled_error (two_zpow_pos _).le error rest
    · exact ⟨0, rfl, finite, one_le, by simp⟩

theorem mantissaPlaces_cases (finite : x.isFinite = true) :
    (value x < 10 ∧ mantissaPlaces x = 2) ∨
      (10 ≤ value x ∧ value x < 100 ∧ mantissaPlaces x = 1) ∨
      100 ≤ value x ∧ mantissaPlaces x = 0 := by
  have ten : value 10.0 = 10 := by
    rw [@value_of_positive 10.0 5629499534213120 (-49) (by decide) rfl]
    norm_num
  have hundred : value 100.0 = 100 := by
    rw [@value_of_positive 100.0 7036874417766400 (-46) (by decide) rfl]
    norm_num
  have below : x < 10.0 ↔ value x < 10 := by rw [lt_iff_value finite rfl, ten]
  have under : x < 100.0 ↔ value x < 100 := by rw [lt_iff_value finite rfl, hundred]
  rw [mantissaPlaces]
  simp only [below, under]
  split
  · next small => exact .inl ⟨small, rfl⟩
  · next large =>
    split
    · next small => exact .inr (.inl ⟨not_lt.1 large, small, rfl⟩)
    · next larger => exact .inr (.inr ⟨not_lt.1 larger, rfl⟩)

theorem hundred_le_fixedUnits (finite : x.isFinite = true) (one_le : 1 ≤ |value x|) :
    100 ≤ fixedUnits (mantissaPlaces x) (Binary.ofFloat x) := by
  refine le_fixedUnits ?_
  rw [← abs_value]
  rcases mantissaPlaces_cases finite
    with ⟨-, places⟩ | ⟨least, -, places⟩ | ⟨least, places⟩
  · rw [places]
    push_cast
    linarith
  · rw [places]
    push_cast
    linarith [le_abs_self (value x)]
  · rw [places]
    push_cast
    linarith [le_abs_self (value x)]

theorem fixedUnits_lt_thousand_iff (finite : x.isFinite = true) :
    fixedUnits (mantissaPlaces x) (Binary.ofFloat x) < 1000 ↔
      |value x| < 9.995 ∨ 10 ≤ value x ∧ value x < 99.95 ∨ 100 ≤ value x ∧
          value x < 999.5 := by
  rw [fixedUnits_lt_iff_of_even (by decide), ← abs_value]
  rcases mantissaPlaces_cases finite
    with ⟨small, places⟩ | ⟨least, small, places⟩ | ⟨least, places⟩
  · have apart : ¬10 ≤ value x := not_le.2 small
    have apart' : ¬100 ≤ value x := fun large => apart (le_trans (by norm_num) large)
    rw [places]
    simp only [apart, apart', false_and, or_false]
    constructor <;> intro less <;> norm_num at less ⊢ <;> linarith
  · have apart' : ¬100 ≤ value x := not_le.2 small
    rw [places, abs_of_nonneg (le_trans (by norm_num) least)]
    simp only [least, apart', true_and, false_and, or_false]
    constructor
    · intro less
      norm_num at less ⊢
      exact .inr (by linarith)
    · rintro (less | less) <;> norm_num at less ⊢ <;> linarith
  · rw [places, abs_of_nonneg (le_trans (by norm_num) least)]
    have least' : 10 ≤ value x := le_trans (by norm_num) least
    simp only [least, least', true_and]
    constructor
    · intro less
      norm_num at less ⊢
      exact .inr (.inr (by linarith))
    · rintro (less | less | less) <;> norm_num at less ⊢ <;> linarith

def significantDigits (text : String) : ℕ :=
  (Text.dropZeros (String.ofList (text.toList.filter Char.isDigit))).length

theorem length_dropZeros_digits {cs : List Char} (digits : AreDigits cs)
    (positive : 0 < Nat.ofDigitChars 10 cs 0) :
    (Text.dropZeros (String.ofList cs)).length =
      (Nat.toDigits 10 (Nat.ofDigitChars 10 cs 0)).length := by
  have written : Text.padded (String.ofList cs).length (Nat.ofDigitChars 10 cs 0) =
      String.ofList cs := by
    have padded :=
      Text.padded_number (s := String.ofList cs) (by simpa using digits.2) (by simpa using digits.1)
    rwa [Text.number, String.toList_ofList] at padded
  rw [← written, Text.dropZeros_padded, if_neg positive.ne', ← String.length_toList,
    Nat.toString_eq_repr, Nat.toList_repr]

theorem filter_placeText (b : Binary) (places units : ℕ) :
    AreDigits ((signed b (placeText places units)).filter Char.isDigit) ∧
      Nat.ofDigitChars 10 ((signed b (placeText places units)).filter Char.isDigit) 0 = units := by
  have kept {cs : List Char} (digits : AreDigits cs) : cs.filter Char.isDigit = cs :=
    List.filter_eq_self.2 digits.2
  have unsigned (cs : List Char) : (signed b cs).filter Char.isDigit = cs.filter Char.isDigit := by
    rw [signed]
    split <;> rfl
  rw [unsigned]
  rcases Nat.eq_zero_or_pos places with rfl | some_place
  · rw [placeText_zero, kept (areDigits_toDigits units)]
    exact ⟨areDigits_toDigits units, Nat.ofDigitChars_ten_toDigits⟩
  · have whole := areDigits_toDigits (units / 10 ^ places)
    have fraction := areDigits_padded places (units % 10 ^ places)
    rw [placeText_point some_place, List.filter_append, List.filter_cons_of_neg (by decide),
      kept whole, kept fraction]
    refine ⟨⟨List.append_ne_nil_of_left_ne_nil whole.1 _, fun c member => ?_⟩,
      ofDigitChars_place some_place units⟩
    exact (List.mem_append.1 member).elim (whole.2 c) (fraction.2 c)

theorem significantDigits_fixed (finite : x.isFinite = true) {places : ℕ}
    (positive : 0 < fixedUnits places (Binary.ofFloat x)) :
    significantDigits (fixed places x) =
      (Nat.toDigits 10 (fixedUnits places (Binary.ofFloat x))).length := by
  obtain ⟨digits, number⟩ :=
    filter_placeText (Binary.ofFloat x) places (fixedUnits places (Binary.ofFloat x))
  rw [significantDigits, toList_fixed finite,
    length_dropZeros_digits digits (number.symm ▸ positive), number]

/-- A number is shown by a mantissa `m` of three digits, the third of them at the place `d`, and the
unit for `1000 ^ k`. The mantissa is off by half a unit of the third digit at most, apart from the
rounding of the divisions by a thousand. -/
structure ThreeDigits (x : ℚ) (shown : String × String) (m : ℚ) (k d : ℕ) : Prop where
  mantissa : numeral? shown.1.toList = some m
  unit : siUnits[k]? = some shown.2
  digits : significantDigits shown.1 = 3
  least : 1 ≤ |m|
  largest : |m| < 1000
  third : 100 ≤ |m| * 10 ^ d ∧ |m| * 10 ^ d < 1000
  near : |m * 1000 ^ k - x| ≤ 1 / 2 / 10 ^ d * 1000 ^ k + |x| * ((1 + 2 ^ (-53 : ℤ)) ^ k - 1)

theorem threeDigits_of_lt (finite : x.isFinite = true) (one_le : 1 ≤ |value x|) {z : ℚ}
    {name : String} {k : ℕ} (unit : siUnits[k]? = some name)
    (error : |value x * 1000 ^ k - z| ≤ |z| * ((1 + 2 ^ (-53 : ℤ)) ^ k - 1))
    (small : fixedUnits (mantissaPlaces x) (Binary.ofFloat x) < 1000) :
    ThreeDigits z (fixed (mantissaPlaces x) x, name) (fixedValue (mantissaPlaces x) x) k
      (mantissaPlaces x) := by
  have hundred := hundred_le_fixedUnits finite one_le
  have counted := significantDigits_fixed finite (Nat.lt_of_lt_of_le (by decide) hundred)
  have few : mantissaPlaces x ≤ 2 := by
    rcases mantissaPlaces_cases finite
      with ⟨-, places⟩ | ⟨-, -, places⟩ | ⟨-, places⟩ <;> omega
  have magnitude := abs_fixedValue (mantissaPlaces x) x
  have near := fixedValue_near (mantissaPlaces x) x
  have numeral := numeral?_fixed finite (mantissaPlaces x)
  generalize mantissaPlaces x = d at *
  generalize fixedUnits d (Binary.ofFloat x) = units at *
  generalize fixedValue d x = m at *
  have power : (0 : ℚ) < 10 ^ d := by positivity
  have third : |m| * 10 ^ d = units := by rw [magnitude, div_mul_cancel₀ _ power.ne']
  have hundred' : (100 : ℚ) ≤ units := by exact_mod_cast hundred
  have small' : (units : ℚ) < 1000 := by exact_mod_cast small
  refine ⟨numeral, unit, ?_, ?_, ?_,
    ⟨hundred'.trans_eq third.symm, third.trans_lt small'⟩, ?_⟩
  · have most := (Nat.length_toDigits_le_iff (b := 10) (k := 3) (by decide) (by decide)).2 small
    have more :=
      mt (Nat.length_toDigits_le_iff (b := 10) (k := 2) (by decide) (by decide)).1
        (not_lt.2 hundred)
    exact counted.trans (by omega)
  · have power' : (10 : ℚ) ^ d ≤ 10 ^ 2 := pow_le_pow_right₀ (by norm_num) few
    rw [magnitude, le_div_iff₀ power]
    linarith
  · rw [magnitude, div_lt_iff₀ power]
    have one_le : (1 : ℚ) ≤ 10 ^ d := one_le_pow₀ (by norm_num)
    linarith
  · calc |m * 1000 ^ k - z|
      _ ≤ |m - value x| * 1000 ^ k + |value x * 1000 ^ k - z| := abs_mul_sub_le (by positivity)
      _ ≤ 1 / 2 / 10 ^ d * 1000 ^ k + |z| * ((1 + 2 ^ (-53 : ℤ)) ^ k - 1) :=
        add_le_add (mul_le_mul_of_nonneg_right near (by positivity)) error

/-- There are three digits unless rounding gives a fourth one or a negative number is taken for a
small one. -/
theorem scaleToUnit_threeDigits_iff (finite : x.isFinite = true) (one_le : 1 ≤ |value x|) :
    (∃ m k d, ThreeDigits (value x) (scaleToUnit x) m k d) ↔
      |value (scaleDown x "" siUnits.tail).1| < 9.995 ∨
        10 ≤ value (scaleDown x "" siUnits.tail).1 ∧
          value (scaleDown x "" siUnits.tail).1 < 99.95 ∨
        100 ≤ value (scaleDown x "" siUnits.tail).1 ∧
            value (scaleDown x "" siUnits.tail).1 < 999.5 := by
  obtain ⟨k, unit, finite', one_le', error⟩ := scaleDown_near finite one_le "" siUnits.tail
  rw [scaleToUnit]
  generalize scaleDown x "" siUnits.tail = scaled at unit finite' one_le' error ⊢
  obtain ⟨s, name⟩ := scaled
  dsimp only at unit finite' one_le' error ⊢
  have hundred := hundred_le_fixedUnits finite' one_le'
  have counted := significantDigits_fixed finite' (Nat.lt_of_lt_of_le (by decide) hundred)
  rw [← fixedUnits_lt_thousand_iff finite']
  constructor
  · rintro ⟨m, k', d, shown⟩
    have three := shown.digits
    rw [counted] at three
    exact (Nat.length_toDigits_le_iff (k := 3) (by decide) (by decide)).1 three.le
  · exact fun small => ⟨_, _, _, threeDigits_of_lt finite' one_le' unit error small⟩

theorem threeDigits_of_megabytes :
    (3200000.0 : Float).isFinite = true ∧ 1 ≤ |value 3200000.0| ∧
      ∃ m k d, ThreeDigits (value 3200000.0) (scaleToUnit 3200000.0) m k d := by
  have number : value 3200000.0 = (6871947673600000 : ℕ) * 2 ^ (-31 : ℤ) :=
    @value_of_positive _ _ _ (by decide) rfl
  have scaled : value (scaleDown 3200000.0 "" siUnits.tail).1 =
      (7205759403792794 : ℕ) * 2 ^ (-51 : ℤ) :=
    @value_of_positive _ _ _ (by decide) rfl
  have large : 1 ≤ |value 3200000.0| := by norm_num [number]
  have finite : (3200000.0 : Float).isFinite = true := rfl
  refine ⟨finite, large, (scaleToUnit_threeDigits_iff finite large).2 (.inl ?_)⟩
  norm_num [scaled]

theorem digits_beyond_three :
    1 ≤ |value 9.999| ∧ |value 9.999| < 10 ^ 27 ∧
      (¬∃ m k d, ThreeDigits (value 9.999) (scaleToUnit 9.999) m k d) ∧
      1 ≤ |value (-500.0)| ∧ |value (-500.0)| < 10 ^ 27 ∧
        ¬∃ m k d, ThreeDigits (value (-500.0)) (scaleToUnit (-500.0)) m k d := by
  have positive : value 9.999 = (5628936584259699 : ℕ) * 2 ^ (-49 : ℤ) :=
    @value_of_positive _ _ _ (by decide) rfl
  have negative : value (-500.0) = -((8796093022208000 : ℕ) * 2 ^ (-44 : ℤ)) :=
    @value_of_negative _ _ _ (by decide) rfl
  have four : significantDigits (scaleToUnit 9.999).1 = 4 := by decide +kernel
  have five : significantDigits (scaleToUnit (-500.0)).1 = 5 := by decide +kernel
  refine ⟨by norm_num [positive], by norm_num [positive], ?_,
    by norm_num [negative], by norm_num [negative], ?_⟩
  · rintro ⟨m, k, d, shown⟩
    exact absurd (four.symm.trans shown.digits) (by decide)
  · rintro ⟨m, k, d, shown⟩
    exact absurd (five.symm.trans shown.digits) (by decide)

end IfaceMonitor.Quantity
