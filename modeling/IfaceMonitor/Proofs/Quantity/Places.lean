import IfaceMonitor.Proofs.Decimal.Numeral
import IfaceMonitor.Proofs.Quantity.SmallestShown
import IfaceMonitor.Proofs.Text.Trim

namespace IfaceMonitor.Quantity
open Decimal Rounding Float.Model Float.Model.UnpackedFloat

section Trimming
variable {whole fraction front : List Char}

theorem exists_zeros (cs : List Char) :
    ∃ k, Text.dropEndWhile (· == '0') cs ++ List.replicate k '0' = cs := by
  refine ⟨(cs.rtakeWhile (· == '0')).length, ?_⟩
  have zeros : List.replicate (cs.rtakeWhile (· == '0')).length '0' = cs.rtakeWhile (· == '0') :=
    (List.eq_replicate_iff.2 ⟨rfl, fun _ member =>
      beq_iff_eq.1 (List.mem_rtakeWhile_imp (p := (· == '0')) member)⟩).symm
  rw [zeros]
  exact List.rdropWhile_append_rtakeWhile ..

def pointed (whole fraction : List Char) : List Char :=
  if fraction = [] then whole else whole ++ '.' :: fraction

theorem trimZeros_point (filled : front ≠ []) (stop : front.getLast filled ≠ '.')
    (digits : ∀ c ∈ fraction, c.isDigit = true) :
    trimZeros (front ++ '.' :: fraction) =
      pointed front (Text.dropEndWhile (· == '0') fraction) := by
  have behind : Text.dropEndWhile (· == '0') ('.' :: fraction) =
      '.' :: Text.dropEndWhile (· == '0') fraction := by
    rw [← List.singleton_append, Text.dropEndWhile_append]
    split
    · next nothing =>
      rw [nothing]
      rfl
    · rfl
  have digit {c : Char} (member : c ∈ Text.dropEndWhile (· == '0') fraction) :
      (c == '.') = false := by
    refine beq_false_of_ne ?_
    rintro rfl
    exact absurd (digits '.' (Text.mem_of_mem_dropEndWhile member)) (by decide)
  rw [trimZeros, Text.dropEndWhile_append, behind, if_neg (List.cons_ne_nil _ _), pointed]
  split
  · next nothing =>
    rw [nothing, Text.dropEndWhile_append]
    exact (if_pos rfl).trans (Text.dropEndWhile_eq_self filled (beq_false_of_ne stop))
  · next kept =>
    refine Text.dropEndWhile_eq_self
      (List.append_ne_nil_of_right_ne_nil _ (List.cons_ne_nil _ _)) ?_
    rw [List.getLast_append_of_ne_nil _ (List.cons_ne_nil _ _), List.getLast_cons kept]
    exact digit (List.getLast_mem kept)

theorem unsigned?_trimmed (digits : AreDigits whole) (digits' : AreDigits fraction) :
    unsigned? (pointed whole (Text.dropEndWhile (· == '0') fraction)) =
      unsigned? (whole ++ '.' :: fraction) := by
  obtain ⟨k, zeros⟩ := exists_zeros fraction
  have kept : ∀ c ∈ Text.dropEndWhile (· == '0') fraction, c.isDigit = true :=
    fun c member => digits'.2 c (Text.mem_of_mem_dropEndWhile member)
  rw [unsigned?_point digits digits']
  generalize Text.dropEndWhile (· == '0') fraction = rest at zeros kept ⊢
  have value : (Nat.ofDigitChars 10 (whole ++ fraction) 0 / 10 ^ fraction.length : ℚ) =
      Nat.ofDigitChars 10 (whole ++ rest) 0 / 10 ^ rest.length := by
    rw [← zeros, ← List.append_assoc, Nat.ofDigitChars_append, Nat.ofDigitChars_replicate_zero,
      List.length_append, List.length_replicate, pow_add]
    push_cast
    field_simp
  rw [value, pointed]
  split
  · next nothing =>
      rw [nothing, List.append_nil, List.length_nil, pow_zero, div_one, unsigned?_whole digits]
  · next some_digit => rw [unsigned?_point digits ⟨some_digit, kept⟩]

theorem trimZeros_signed (b : Binary) (digits : AreDigits whole) (digits' : AreDigits fraction) :
    trimZeros (signed b (whole ++ '.' :: fraction)) =
      signed b (pointed whole (Text.dropEndWhile (· == '0') fraction)) := by
  have stop : whole.getLast digits.1 ≠ '.' :=
    ne_of_mem_of_not_mem (List.getLast_mem digits.1) (digits.not_mem rfl)
  rw [signed, signed]
  split
  · have last : ('-' :: whole).getLast (List.cons_ne_nil _ _) ≠ '.' := by
      rwa [List.getLast_cons digits.1]
    rw [← List.cons_append, trimZeros_point (List.cons_ne_nil _ _) last digits'.2, pointed,
      pointed]
    split <;> rfl
  · exact trimZeros_point digits.1 stop digits'.2

theorem trimZeros_whole (b : Binary) (digits : AreDigits whole)
    (kept : Text.dropEndWhile (· == '0') whole ≠ []) :
    trimZeros (signed b whole) = signed b (Text.dropEndWhile (· == '0') whole) := by
  have stop {front : List Char} :
      Text.dropEndWhile (· == '.') (front ++ Text.dropEndWhile (· == '0') whole) =
        front ++ Text.dropEndWhile (· == '0') whole := by
    refine Text.dropEndWhile_eq_self (List.append_ne_nil_of_right_ne_nil _ kept) ?_
    rw [List.getLast_append_of_ne_nil _ kept]
    have digit := digits.2 _ (Text.mem_of_mem_dropEndWhile (List.getLast_mem kept))
    refine beq_false_of_ne fun point => ?_
    rw [point] at digit
    cases digit
  rw [signed, signed, trimZeros]
  split
  · rw [← List.singleton_append, Text.dropEndWhile_append, if_neg kept, stop]
    rfl
  · exact @stop []

end Trimming

theorem numeral?_trimZeros_fixed {x : Float} (finite : x.isFinite = true) {places : ℕ}
    (some_place : 0 < places) :
    numeral? (trimZeros (fixed places x).toList) = some (fixedValue places x) := by
  have digits := areDigits_toDigits (fixedUnits places (Binary.ofFloat x) / 10 ^ places)
  have digits' := areDigits_padded places (fixedUnits places (Binary.ofFloat x) % 10 ^ places)
  have read := unsigned?_trimmed digits digits'
  rw [← placeText_point some_place, unsigned?_placeText] at read
  rw [toList_fixed finite, placeText_point some_place, trimZeros_signed _ digits digits',
    numeral?_signed _ read, fixedValue]

theorem exists_trimmed (b : Binary) {n : ℕ} (positive : 0 < n) :
    ∃ k j, n = k * 10 ^ j ∧ ¬10 ∣ k ∧
      numeral? (trimZeros (signed b (Nat.toDigits 10 n))) = some (b.sign * k) := by
  have digits := areDigits_toDigits n
  have number := Nat.ofDigitChars_ten_toDigits (n := n)
  obtain ⟨j, zeros⟩ := exists_zeros (Nat.toDigits 10 n)
  have kept : Text.dropEndWhile (· == '0') (Nat.toDigits 10 n) ≠ [] := by
    intro nothing
    rw [← zeros, nothing, List.nil_append, Nat.ofDigitChars_replicate_zero] at number
    omega
  have digits' : AreDigits (Text.dropEndWhile (· == '0') (Nat.toDigits 10 n)) :=
    ⟨kept, fun c member => digits.2 c (Text.mem_of_mem_dropEndWhile member)⟩
  have last : (Text.dropEndWhile (· == '0') (Nat.toDigits 10 n)).getLast kept ≠ '0' :=
    fun zero => List.rdropWhile_last_not (· == '0') (Nat.toDigits 10 n) kept (beq_iff_eq.2 zero)
  rw [trimZeros_whole b digits kept]
  generalize Text.dropEndWhile (· == '0') (Nat.toDigits 10 n) = rest at zeros kept digits' last ⊢
  refine ⟨Nat.ofDigitChars 10 rest 0, j, ?_, ?_, numeral?_signed b (unsigned?_whole digits')⟩
  · rw [← number, ← zeros, Nat.ofDigitChars_append, Nat.ofDigitChars_replicate_zero, mul_comm]
  · have bounds : 48 ≤ (rest.getLast kept).toNat ∧ (rest.getLast kept).toNat ≤ 57 :=
      Char.isDigit_iff_toNat.1 (digits'.2 _ (List.getLast_mem kept))
    have other : (rest.getLast kept).toNat ≠ 48 := fun zero => last (Char.toNat_inj.1 zero)
    rw [← List.dropLast_append_getLast kept, Nat.ofDigitChars_append, Nat.ofDigitChars_cons,
      Nat.ofDigitChars_nil]
    have zero : '0'.toNat = 48 := rfl
    rw [zero]
    omega

theorem unsigned?_smallestShownText (places : ℕ) :
    unsigned? (smallestShownText places).toList = some (1 / 10 ^ max 1 places) := by
  have text : (smallestShownText places).toList =
      ['0'] ++ '.' :: (List.replicate (places - 1) '0' ++ ['1']) := by
    simp only [smallestShownText, String.toList_append, String.toList_ofList, List.append_assoc]
    rfl
  have digits : AreDigits (List.replicate (places - 1) '0' ++ ['1']) := by
    refine ⟨List.append_ne_nil_of_right_ne_nil _ (List.cons_ne_nil _ _), fun c member => ?_⟩
    rcases List.mem_append.1 member with zero | one
    · rw [List.eq_of_mem_replicate zero]
      rfl
    · rw [List.mem_singleton.1 one]
      rfl
  have length : (List.replicate (places - 1) '0' ++ ['1']).length = max 1 places := by
    rw [List.length_append, List.length_replicate, List.length_singleton]
    omega
  have number :
      Nat.ofDigitChars 10 (['0'] ++ (List.replicate (places - 1) '0' ++ ['1'])) 0 = 1 := by
    rw [Nat.ofDigitChars_append, Nat.ofDigitChars_append, Nat.ofDigitChars_replicate_zero]
    simp [Nat.ofDigitChars_cons]
  have whole : AreDigits ['0'] := areDigits_toDigits 0
  rw [text, unsigned?_point whole digits, number, length, Nat.cast_one]

/-- What the text for a number says is true: it is a numeral that is half a unit of the last place
away at most, or a bound that the number keeps. -/
def Truthful (places : ℕ) (x : ℚ) : List Char → Prop
  | '<' :: limit => ∃ T, unsigned? limit = some T ∧ 0 < x ∧ x < T
  | '>' :: '-' :: limit => ∃ T, unsigned? limit = some T ∧ -T < x ∧ x < 0
  | shown => ∃ y, numeral? shown = some y ∧ |y - x| ≤ 1 / 2 / 10 ^ places

theorem truthful_iff_near {places : ℕ} {x y : ℚ} {shown : List Char}
    (read : numeral? shown = some y) :
    Truthful places x shown ↔ |y - x| ≤ 1 / 2 / 10 ^ places := by
  rw [Truthful.eq_3]
  · rw [read]
    simp
  · rintro limit rfl
    rw [numeral?.eq_2 _ (by simp), unsigned?_cons_of_not_digit rfl (by decide)] at read
    cases read
  · rintro limit rfl
    rw [numeral?.eq_2 _ (by simp), unsigned?_cons_of_not_digit rfl (by decide)] at read
    cases read

variable {x : Float} {places : ℕ}

theorem truthful_whole (finite : x.isFinite = true) (whole : isWhole x = true) :
    Truthful places (value x) (fixed 0 x).toList := by
  obtain ⟨k, number⟩ := (isWhole_iff finite).1 whole
  rw [truthful_iff_near (numeral?_fixed finite 0), fixedValue_of_whole number, sub_self, abs_zero]
  positivity

theorem truthful_places (finite : x.isFinite = true) (some_place : 0 < places) :
    Truthful places (value x) (trimZeros (fixed places x).toList) :=
  (truthful_iff_near (numeral?_trimZeros_fixed finite some_place)).2 (fixedValue_near places x)

theorem truthful_bound_iff (finite : x.isFinite = true) (nonzero : value x ≠ 0) :
    Truthful places (value x)
      ((if x > 0.0 then "<" else ">-") ++ smallestShownText places).toList ↔
      |value x| < 1 / 10 ^ max 1 places := by
  have zero : value 0.0 = 0 := value_of_zero (s := .positive) rfl
  have sign : x > 0.0 ↔ 0 < value x := by rw [gt_iff_lt, lt_iff_value rfl finite, zero]
  have limit := unsigned?_smallestShownText places
  rw [String.toList_append]
  by_cases above : 0 < value x
  · rw [if_pos (sign.2 above), abs_of_pos above]
    change
      (∃ T, unsigned? (smallestShownText places).toList = some T ∧ 0 < value x ∧ value x < T) ↔ _
    rw [limit]
    simp [above]
  · have below : value x < 0 := lt_of_le_of_ne (not_lt.1 above) nonzero
    rw [if_neg (mt sign.1 above), abs_of_neg below]
    change
      (∃ T, unsigned? (smallestShownText places).toList = some T ∧ -T < value x ∧ value x < 0) ↔
        _
    rw [limit]
    simp [below, neg_lt]

theorem trimmed_near_iff {b : Binary} {k j : ℕ} (units : fixedUnits 0 b = k * 10 ^ j)
    (last : ¬10 ∣ k) :
    |(k - b.magnitude : ℚ)| ≤ 1 / 2 ↔
        ∀ t : ℕ, 1 / 2 < |(10 * t - b.magnitude : ℚ)| := by
  have near := fixedUnits_near 0 b
  rw [pow_zero, mul_one, units] at near
  constructor
  · intro nearby t
    by_contra! multiple
    have ten : fixedUnits 0 b = 10 * t := by
      refine fixedUnits_eq_of_even (even_two.mul_right 5 |>.mul_right t) ?_
      rw [pow_zero, mul_one]
      exact_mod_cast multiple
    cases j with
    | zero =>
      rw [units, pow_zero, mul_one] at ten
      exact last ⟨t, ten⟩
    | succ j =>
      -- With its zeros the number is ten times the trimmed one, which cannot be near as well.
      have positive : 0 < k := Nat.pos_of_ne_zero fun zero => last (zero ▸ dvd_zero 10)
      have grown : k * 10 ≤ k * 10 ^ (j + 1) :=
        Nat.mul_le_mul_left k (Nat.le_self_pow (Nat.succ_ne_zero j) 10)
      have grown : (k * 10 : ℚ) ≤ (k * 10 ^ (j + 1) : ℕ) := by exact_mod_cast grown
      have positive : (1 : ℚ) ≤ k := by exact_mod_cast positive
      have upper := (abs_le.1 near).2
      have lower := (abs_le.1 nearby).1
      linarith
  · intro apart
    cases j with
    | zero => simpa using near
    | succ j =>
      have multiple := apart (k * 10 ^ j)
      have same : (10 * (k * 10 ^ j : ℕ) : ℚ) = (k * 10 ^ (j + 1) : ℕ) := by
        push_cast
        ring
      rw [same] at multiple
      exact absurd near multiple.not_ge

theorem truthful_without_places_iff (finite : x.isFinite = true) (large : 1 ≤ |value x|) :
    Truthful 0 (value x) (trimZeros (fixed 0 x).toList) ↔
      ∀ k : ℕ, 1 / 2 < |(10 * k - |value x| : ℚ)| := by
  rw [abs_value] at large ⊢
  have positive : 1 ≤ fixedUnits 0 (Binary.ofFloat x) := by
    refine le_fixedUnits ?_
    rwa [pow_zero, mul_one, Nat.cast_one]
  obtain ⟨k, j, units, last, read⟩ := exists_trimmed (Binary.ofFloat x) positive
  rw [toList_fixed finite, placeText_zero, truthful_iff_near read, value, ← mul_sub, abs_mul,
    abs_sign, one_mul, pow_zero, div_one]
  exact trimmed_near_iff units last

theorem lt_smallestShown_zero_iff (finite : x.isFinite = true) :
    x.abs < smallestShown 0 ↔ |value x| < 1 := by
  have one : value (smallestShown 0) = 1 := by
    rw [@value_of_positive (smallestShown 0) (2 ^ 52) (-52) (by decide) rfl]
    norm_num
  obtain ⟨finiteAbs, magnitude⟩ := abs_finite finite
  rw [lt_iff_value finiteAbs rfl, magnitude, one]

/-- With places the text is true. Without places it is true of whole numbers, of numbers below a
tenth, and of numbers from one on that are not rounded to multiples of ten. -/
theorem withPlaces_truthful_iff (finite : x.isFinite = true) (small : places < 2 ^ 31)
    (unit : String) :
    ∃ shown, withPlaces places unit x = String.ofList shown ++ unit ∧
      (Truthful places (value x) shown ↔
        (places = 0 →
          (∃ k : ℤ, value x = k) ∨ |value x| < 1 / 10 ∨ 1 ≤ |value x| ∧
            ∀ k : ℕ, 1 / 2 < |(10 * k - |value x| : ℚ)|)) := by
  rw [withPlaces]
  by_cases whole : isWhole x = true
  · refine ⟨(fixed 0 x).toList, by rw [if_pos whole, String.ofList_toList], ?_⟩
    exact iff_of_true (truthful_whole finite whole) fun _ => .inl ((isWhole_iff finite).1 whole)
  · have fraction : ¬∃ k : ℤ, value x = k := mt (isWhole_iff finite).2 whole
    have nonzero : value x ≠ 0 := fun zero => fraction ⟨0, by rw [zero, Int.cast_zero]⟩
    rw [if_neg whole]
    by_cases below : x.abs < smallestShown places
    · refine ⟨_, by rw [if_pos below, String.ofList_toList], ?_⟩
      rw [truthful_bound_iff finite nonzero]
      rcases Nat.eq_zero_or_pos places with rfl | some_place
      · have under : ¬1 ≤ |value x| := not_le.2 ((lt_smallestShown_zero_iff finite).1 below)
        rw [Nat.max_zero, pow_one]
        exact ⟨fun bounded _ => .inr (.inl bounded),
          fun said => ((said rfl).resolve_left fraction).resolve_right fun both => under both.1⟩
      · have bounded :=
          abs_lt_of_lt_smallestShown finite some_place (small.trans (by decide)) below
        rw [max_eq_right some_place]
        exact iff_of_true bounded fun none => absurd none some_place.ne'
    · refine ⟨_, by rw [if_neg below], ?_⟩
      rcases Nat.eq_zero_or_pos places with rfl | some_place
      · have large : 1 ≤ |value x| := not_lt.1 (mt (lt_smallestShown_zero_iff finite).2 below)
        have beyond : ¬|value x| < 1 / 10 := by linarith
        rw [truthful_without_places_iff finite large]
        exact ⟨fun apart _ => .inr (.inr ⟨large, apart⟩),
          fun said => (((said rfl).resolve_left fraction).resolve_left beyond).2⟩
      · exact iff_of_true (truthful_places finite some_place) fun none =>
          absurd none some_place.ne'

theorem packetRate_truthful :
    (10.001 : Float).isFinite = true ∧ 2 < 2 ^ 31 ∧
      ∃ shown, withPlaces 2 " packets/s" 10.001 = String.ofList shown ++ " packets/s" ∧
        Truthful 2 (value 10.001) shown := by
  have finite : (10.001 : Float).isFinite = true := rfl
  have small : 2 < 2 ^ 31 := by decide
  obtain ⟨shown, text, truthful⟩ := withPlaces_truthful_iff finite small " packets/s"
  exact ⟨finite, small, shown, text, truthful.2 fun none => absurd none two_ne_zero⟩

theorem untrue_without_places :
    withPlaces 0 "" 10.3 = "1" ∧ ¬Truthful 0 (value 10.3) ['1'] ∧
      withPlaces 0 "" 0.5 = "<0.1" ∧ ¬Truthful 0 (value 0.5) ['<', '0', '.', '1'] := by
  have more : value 10.3 = (5798384520239514 : ℕ) * 2 ^ (-49 : ℤ) :=
    @value_of_positive _ _ _ (by decide) rfl
  have half : value 0.5 = (2 ^ 52 : ℕ) * 2 ^ (-53 : ℤ) :=
    @value_of_positive _ _ _ (by decide) rfl
  refine ⟨by decide +kernel, ?_, by decide +kernel, ?_⟩
  · have digits : AreDigits ['1'] := areDigits_toDigits 1
    have number : Nat.ofDigitChars 10 ['1'] 0 = 1 := rfl
    have one := numeral?_signed ⟨false, 1, 0⟩ (unsigned?_whole digits)
    rw [signed, if_neg Bool.false_ne_true, number, Binary.sign, if_neg Bool.false_ne_true] at one
    rw [truthful_iff_near one, more]
    norm_num [abs_le]
  · rintro ⟨limit, read, -, below⟩
    have tenth : unsigned? ['0', '.', '1'] = _ := unsigned?_smallestShownText 0
    rw [read] at tenth
    rw [Option.some.inj tenth, half] at below
    norm_num at below

end IfaceMonitor.Quantity
