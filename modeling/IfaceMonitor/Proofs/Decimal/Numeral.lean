import IfaceMonitor.Decimal.Fixed
import IfaceMonitor.Proofs.Decimal.Value
import IfaceMonitor.Proofs.Text.Numeral

namespace IfaceMonitor.Decimal

def AreDigits (cs : List Char) : Prop :=
  cs ≠ [] ∧ ∀ c ∈ cs, c.isDigit = true

instance (cs : List Char) : Decidable (AreDigits cs) :=
  inferInstanceAs (Decidable (cs ≠ [] ∧ ∀ c ∈ cs, c.isDigit = true))

def unsigned? (cs : List Char) : Option ℚ :=
  match cs.splitOn '.' with
  | [whole] => if AreDigits whole then some (Nat.ofDigitChars 10 whole 0 : ℕ) else none
  | [whole, fraction] =>
    if AreDigits whole ∧ AreDigits fraction then
      some ((Nat.ofDigitChars 10 (whole ++ fraction) 0 : ℕ) / 10 ^ fraction.length)
    else none
  | _ => none

def numeral? : List Char → Option ℚ
  | '-' :: cs => (unsigned? cs).map (- ·)
  | cs => unsigned? cs

variable {whole fraction cs : List Char}

theorem AreDigits.not_mem {c : Char} (digits : AreDigits cs) (other : c.isDigit = false) :
    c ∉ cs :=
  fun member => Bool.false_ne_true (other.symm.trans (digits.2 c member))

theorem unsigned?_whole (digits : AreDigits whole) :
    unsigned? whole = some ((Nat.ofDigitChars 10 whole 0 : ℕ) : ℚ) := by
  rw [unsigned?, List.splitOn_eq_singleton (digits.not_mem rfl)]
  exact if_pos digits

theorem unsigned?_point (digits : AreDigits whole) (digits' : AreDigits fraction) :
    unsigned? (whole ++ '.' :: fraction) =
      some (((Nat.ofDigitChars 10 (whole ++ fraction) 0 : ℕ) : ℚ) / 10 ^ fraction.length) := by
  rw [unsigned?, List.splitOn_append_cons_self_of_not_mem (digits.not_mem rfl),
    List.splitOn_eq_singleton (digits'.not_mem rfl)]
  exact if_pos (And.intro digits digits')

theorem unsigned?_cons_of_not_digit {c : Char} (other : c.isDigit = false) (inside : c ≠ '.')
    (cs : List Char) :
    unsigned? (c :: cs) = none := by
  have started (piece : List Char) : ¬AreDigits (c :: piece) := fun digits =>
    digits.not_mem other List.mem_cons_self
  rw [unsigned?, List.splitOn_cons_eq_if_modifyHead, if_neg (by simpa using inside)]
  rcases cs.splitOn '.' with _ | ⟨first, _ | ⟨second, _ | ⟨third, rest⟩⟩⟩
  · rfl
  · exact if_neg (started first)
  · exact if_neg fun both => started first both.1
  · rfl

def signed (b : Binary) (cs : List Char) : List Char :=
  if b.negative then '-' :: cs else cs

theorem numeral?_signed (b : Binary) {y : ℚ} (read : unsigned? cs = some y) :
    numeral? (signed b cs) = some (b.sign * y) := by
  rw [signed, Binary.sign]
  split
  · rw [numeral?, read, neg_one_mul]
    rfl
  · rw [numeral?.eq_2, read, one_mul]
    rintro rest rfl
    rw [unsigned?_cons_of_not_digit rfl (by decide)] at read
    cases read

theorem areDigits_toDigits (n : ℕ) : AreDigits (Nat.toDigits 10 n) :=
  ⟨Nat.toDigits_ne_nil, fun _ => Nat.isDigit_of_mem_toDigits (by decide) (by decide)⟩

theorem areDigits_padded (width n : ℕ) : AreDigits (Text.padded width n).toList := by
  refine ⟨fun empty => ?_, fun _ => Text.isDigit_of_mem_padded⟩
  rw [Text.toList_padded] at empty
  exact Nat.toDigits_ne_nil (List.append_eq_nil_iff.1 empty).2

theorem length_padded_of_lt {places n : ℕ} (some_place : 0 < places) (small : n < 10 ^ places) :
    (Text.padded places n).toList.length = places := by
  have fits : (Nat.toDigits 10 n).length ≤ places :=
    (Nat.length_toDigits_le_iff (by decide) some_place).2 small
  rw [Text.toList_padded, List.length_append, List.length_replicate]
  omega

theorem placeText_zero (units : ℕ) : placeText 0 units = Nat.toDigits 10 units := by
  simp [placeText, Nat.toString_eq_repr, Nat.toList_repr]

theorem placeText_point {places : ℕ} (some_place : 0 < places) (units : ℕ) :
    placeText places units =
      Nat.toDigits 10 (units / 10 ^ places) ++ '.' ::
        (Text.padded places (units % 10 ^ places)).toList := by
  rw [placeText, if_neg some_place.ne', Text.padded, String.toList_ofList, Nat.toString_eq_repr,
    Nat.toList_repr]
  rfl

theorem ofDigitChars_place {places : ℕ} (some_place : 0 < places) (units : ℕ) :
    Nat.ofDigitChars 10
      (Nat.toDigits 10 (units / 10 ^ places) ++ (Text.padded places (units % 10 ^ places)).toList)
      0 = units := by
  have below : units % 10 ^ places < 10 ^ places := Nat.mod_lt _ (by positivity)
  rw [Nat.ofDigitChars_append, Nat.ofDigitChars_ten_toDigits, Nat.ofDigitChars_eq_ofDigitChars_zero,
    length_padded_of_lt some_place below, Text.ofDigitChars_padded, Nat.div_add_mod]

theorem unsigned?_placeText (places units : ℕ) :
    unsigned? (placeText places units) = some ((units : ℚ) / 10 ^ places) := by
  rcases Nat.eq_zero_or_pos places with rfl | some_place
  · rw [placeText_zero, unsigned?_whole (areDigits_toDigits units), Nat.ofDigitChars_ten_toDigits,
      pow_zero, div_one]
  · have below : units % 10 ^ places < 10 ^ places := Nat.mod_lt _ (by positivity)
    rw [placeText_point some_place, unsigned?_point (areDigits_toDigits _) (areDigits_padded _ _),
      ofDigitChars_place some_place, length_padded_of_lt some_place below]

theorem roundDiv_near (num : ℕ) {den : ℕ} (positive : 0 < den) :
    |(roundDiv num den - num / den : ℚ)| ≤ 1 / 2 := by
  have upper : (2 * den * roundDiv num den : ℚ) ≤ 2 * num + den := by
    exact_mod_cast roundDiv_le num den positive
  have lower : (2 * num : ℚ) ≤ 2 * den * roundDiv num den + den := by
    exact_mod_cast le_roundDiv num den positive
  have unit : (0 : ℚ) < den := by exact_mod_cast positive
  have parts : (roundDiv num den - num / den : ℚ) =
      (2 * den * roundDiv num den - 2 * num) / (2 * den) := by field_simp
  rw [parts, abs_div, abs_of_pos (by linarith : (0 : ℚ) < 2 * den),
    div_le_iff₀ (by linarith), abs_le]
  constructor <;> linarith

theorem ratio_pos (b : Binary) : 0 < b.ratio.2 :=
  Nat.two_pow_pos _

theorem ratio_eq (b : Binary) : (b.ratio.1 / b.ratio.2 : ℚ) = b.magnitude := by
  have parts : b.exponent = (b.exponent.toNat : ℤ) - ((-b.exponent).toNat : ℤ) := by omega
  rw [Binary.magnitude, parts, zpow_sub₀ two_ne_zero, zpow_natCast, zpow_natCast,
    ← mul_div_assoc]
  simp [Binary.ratio]

theorem fixedUnits_eq_roundDiv (places : ℕ) (b : Binary) :
    fixedUnits places b = roundDiv (b.ratio.1 * 10 ^ places) b.ratio.2 :=
  rfl

theorem fixedUnits_near (places : ℕ) (b : Binary) :
    |(fixedUnits places b - b.magnitude * 10 ^ places : ℚ)| ≤ 1 / 2 := by
  have near := roundDiv_near (b.ratio.1 * 10 ^ places) (ratio_pos b)
  rw [Nat.cast_mul, Nat.cast_pow, Nat.cast_ofNat, mul_div_right_comm, ratio_eq] at near
  exact near

theorem eq_of_near {m n : ℕ} {x : ℚ} (near : |(m - x : ℚ)| ≤ 1 / 2)
    (nearer : |(n - x : ℚ)| < 1 / 2) : m = n := by
  obtain ⟨lower, upper⟩ := abs_le.1 near
  obtain ⟨lower', upper'⟩ := abs_lt.1 nearer
  have below : (m : ℚ) < (n + 1 : ℕ) := by
    push_cast
    linarith
  have above : (n : ℚ) < (m + 1 : ℕ) := by
    push_cast
    linarith
  have below := Nat.cast_lt.1 below
  have above := Nat.cast_lt.1 above
  omega

theorem fixedUnits_eq {places k : ℕ} {b : Binary}
    (near : |(k - b.magnitude * 10 ^ places : ℚ)| < 1 / 2) : fixedUnits places b = k :=
  eq_of_near (fixedUnits_near places b) near

theorem roundDiv_eq_of_even {num den k : ℕ} (positive : 0 < den) (even : Even k)
    (below : 2 * den * k ≤ 2 * num + den) (above : 2 * num ≤ 2 * den * k + den) :
    roundDiv num den = k := by
  have parts := Nat.div_add_mod num den
  have small := Nat.mod_lt num positive
  rw [roundDiv]
  generalize num / den = q at parts
  generalize num % den = r at parts small
  have next : 2 * den * (q + 1) = 2 * (den * q) + 2 * den := by ring
  have reached : q ≤ k := by
    by_contra! less
    have step : 2 * den * (k + 1) ≤ 2 * den * q := Nat.mul_le_mul_left _ less
    have grown : 2 * den * (k + 1) = 2 * den * k + 2 * den := by ring
    have same : 2 * den * q = 2 * (den * q) := by ring
    omega
  have bounded : k ≤ q + 1 := by
    by_contra! less
    have step : 2 * den * (q + 2) ≤ 2 * den * k := Nat.mul_le_mul_left _ less
    have grown : 2 * den * (q + 2) = 2 * (den * q) + 4 * den := by ring
    omega
  -- Of the two that are left a tie goes to the even one, which is `k`.
  obtain rfl | rfl : k = q ∨ k = q + 1 := by omega
  · have half : 2 * r ≤ den := by
      have same : 2 * den * k = 2 * (den * k) := by ring
      omega
    have even : k % 2 = 0 := Nat.even_iff.1 even
    rw [if_neg]
    simp only [Bool.or_eq_true, decide_eq_true_eq, Bool.and_eq_true, beq_iff_eq]
    omega
  · have half : den ≤ 2 * r := by omega
    have odd : (q + 1) % 2 = 0 := Nat.even_iff.1 even
    rw [if_pos]
    simp only [Bool.or_eq_true, decide_eq_true_eq, Bool.and_eq_true, beq_iff_eq]
    omega

theorem fixedUnits_eq_of_even {places k : ℕ} {b : Binary} (even : Even k)
    (near : |(k - b.magnitude * 10 ^ places : ℚ)| ≤ 1 / 2) :
    fixedUnits places b = k := by
  have positive : (0 : ℚ) < b.ratio.2 := by exact_mod_cast ratio_pos b
  rw [← ratio_eq, div_mul_eq_mul_div] at near
  obtain ⟨lower, upper⟩ := abs_le.1 near
  rw [le_sub_iff_add_le, ← le_sub_iff_add_le', div_le_iff₀ positive] at lower
  rw [sub_le_iff_le_add', ← sub_le_iff_le_add, le_div_iff₀ positive] at upper
  rw [fixedUnits_eq_roundDiv]
  generalize b.ratio = ratio at positive lower upper ⊢
  refine roundDiv_eq_of_even (by exact_mod_cast positive) even ?_ ?_
  · rify
    rify at upper
    linarith
  · rify
    rify at lower
    linarith

theorem le_fixedUnits {places k : ℕ} {b : Binary}
    (reached : (k : ℚ) ≤ b.magnitude * 10 ^ places) : k ≤ fixedUnits places b := by
  have lower := (abs_le.1 (fixedUnits_near places b)).1
  have above : (k : ℚ) < (fixedUnits places b + 1 : ℕ) := by
    push_cast
    linarith
  exact Nat.lt_succ_iff.1 (Nat.cast_lt.1 above)

theorem fixedUnits_lt_iff_of_even {places k : ℕ} {b : Binary} (even : Even k) :
    fixedUnits places b < k ↔ b.magnitude * 10 ^ places < (k - 1 / 2 : ℚ) := by
  obtain ⟨lower, upper⟩ := abs_le.1 (fixedUnits_near places b)
  constructor
  · intro less
    by_contra! reached
    rcases le_or_gt (b.magnitude * 10 ^ places) (k + 1 / 2) with tie | beyond
    · have near : |(k - b.magnitude * 10 ^ places : ℚ)| ≤ 1 / 2 :=
        abs_le.2 ⟨by linarith, by linarith⟩
      exact less.ne (fixedUnits_eq_of_even even near)
    · have more : (k : ℚ) < fixedUnits places b := by linarith
      exact less.not_gt (Nat.cast_lt.1 more)
  · intro less
    have fewer : (fixedUnits places b : ℚ) < k := by linarith
    exact Nat.cast_lt.1 fewer

theorem isNaN_isInf_of_isFinite {x : Float} (finite : x.isFinite = true) :
    x.isNaN = false ∧ x.isInf = false := by
  change x.toModel.unpack.isFinite = true at finite
  change x.toModel.unpack.isNaN = false ∧ x.toModel.unpack.isInf = false
  cases unpacked : x.toModel.unpack with
  | notANumber | infinity =>
    rw [unpacked] at finite
    cases finite
  | zero | finite => exact ⟨rfl, rfl⟩

theorem toList_fixed {x : Float} (finite : x.isFinite = true) (places : ℕ) :
    (fixed places x).toList =
      signed (Binary.ofFloat x) (placeText places (fixedUnits places (Binary.ofFloat x))) := by
  have number := isNaN_isInf_of_isFinite finite
  simp only [fixed, notate, number.1, number.2, Bool.false_eq_true, if_false, String.toList_ofList]
  rfl

def fixedValue (places : ℕ) (x : Float) : ℚ :=
  (Binary.ofFloat x).sign * (fixedUnits places (Binary.ofFloat x) / 10 ^ places)

theorem numeral?_fixed {x : Float} (finite : x.isFinite = true) (places : ℕ) :
    numeral? (fixed places x).toList = some (fixedValue places x) := by
  rw [toList_fixed finite, numeral?_signed _ (unsigned?_placeText _ _), fixedValue]

theorem abs_sign (b : Binary) : |b.sign| = 1 := by
  rw [Binary.sign]
  split <;> simp

theorem abs_fixedValue (places : ℕ) (x : Float) :
    |fixedValue places x| = fixedUnits places (Binary.ofFloat x) / 10 ^ places := by
  rw [fixedValue, abs_mul, abs_sign, one_mul, abs_of_nonneg (by positivity)]

theorem fixedValue_near (places : ℕ) (x : Float) :
    |fixedValue places x - value x| ≤ 1 / 2 / 10 ^ places := by
  have near := fixedUnits_near places (Binary.ofFloat x)
  have unit : (0 : ℚ) < 10 ^ places := by positivity
  rw [fixedValue, value, ← mul_sub, abs_mul, abs_sign, one_mul, le_div_iff₀ unit,
    ← abs_of_pos unit, ← abs_mul, abs_of_pos unit, sub_mul, div_mul_cancel₀ _ unit.ne']
  exact near

theorem isWhole_iff {x : Float} (finite : x.isFinite = true) :
    isWhole x = true ↔ ∃ k : ℤ, value x = k := by
  have positive : ((Binary.ofFloat x).ratio.2 : ℚ) ≠ 0 := by exact_mod_cast (ratio_pos _).ne'
  rw [isWhole, (isNaN_isInf_of_isFinite finite).1, Bool.not_false, Bool.true_and, Binary.isWhole,
    beq_iff_eq, ← Nat.dvd_iff_mod_eq_zero]
  constructor
  · rintro ⟨k, whole⟩
    have magnitude : (Binary.ofFloat x).magnitude = k := by
      rw [← ratio_eq, whole, Nat.cast_mul, mul_div_cancel_left₀ _ positive]
    rw [value, magnitude, Binary.sign]
    split
    · exact ⟨-k, by push_cast; ring⟩
    · exact ⟨k, one_mul _⟩
  · rintro ⟨k, whole⟩
    have magnitude : (k.natAbs : ℚ) = (Binary.ofFloat x).magnitude := by
      rw [← abs_value, whole, Nat.cast_natAbs, Int.cast_abs]
    rw [← ratio_eq, eq_div_iff positive] at magnitude
    exact ⟨k.natAbs, by rw [mul_comm]; exact_mod_cast magnitude.symm⟩

theorem fixedValue_of_whole {x : Float} {k : ℤ} (whole : value x = k) :
    fixedValue 0 x = value x := by
  have magnitude : (Binary.ofFloat x).magnitude = k.natAbs := by
    rw [← abs_value, whole, Nat.cast_natAbs, Int.cast_abs]
  have units : fixedUnits 0 (Binary.ofFloat x) = k.natAbs := by
    refine fixedUnits_eq ?_
    rw [magnitude, pow_zero, mul_one, sub_self, abs_zero]
    norm_num
  rw [fixedValue, value, magnitude, units, pow_zero, div_one]

end IfaceMonitor.Decimal
