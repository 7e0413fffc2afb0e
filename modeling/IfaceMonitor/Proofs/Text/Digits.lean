import IfaceMonitor.Proofs.Text.Numeral

/-!
Texts of digits. On texts of one length the order of the bytes is that of the numbers
(`compare_bytes`), so a number has one text of each length, and every text of digits is the padded
number that it writes (`padded_number`).
-/

namespace IfaceMonitor.Text

def number (digits : String) : Nat :=
  Nat.ofDigitChars 10 digits.toList 0

def bytes (s : String) : List UInt8 :=
  s.toUTF8.data.toList

theorem bytes_eq_flatMap (s : String) : bytes s = s.toList.flatMap String.utf8EncodeChar := by
  rw [bytes, String.toUTF8_eq_toByteArray, ← String.utf8Encode_toList, List.utf8Encode,
    List.data_toByteArray]

theorem bytes_inj {s t : String} : bytes s = bytes t ↔ s = t := by
  constructor
  · intro h
    exact String.toByteArray_inj.1 (ByteArray.ext (Array.toList_inj.1 h))
  · exact fun h => h ▸ rfl

theorem bytes_of_isDigit {s : String} (digits : ∀ c ∈ s.toList, c.isDigit) :
    bytes s = s.toList.map Char.toUInt8 := by
  rw [bytes_eq_flatMap]
  generalize s.toList = cs at digits
  induction cs with
  | nil => rfl
  | cons c cs ih =>
    have bounds := Char.isDigit_iff_toNat.1 (digits c List.mem_cons_self)
    have one : c.utf8Size = 1 :=
      Char.utf8Size_eq_one_iff.2 (UInt32.le_iff_toNat_le.2 (bounds.2.trans (by decide)))
    rw [List.flatMap_cons, ih fun d hd =>
      digits d (List.mem_cons_of_mem c hd), String.utf8EncodeChar_eq_singleton one]
    rfl

theorem length_bytes {s : String} (digits : ∀ c ∈ s.toList, c.isDigit) :
    (bytes s).length = s.length := by
  rw [bytes_of_isDigit digits, List.length_map, String.length_toList]

theorem compare_place {unit m n x y : Nat} (hx : x < unit) (hy : y < unit) :
    compare (unit * m + x) (unit * n + y) = (compare m n).then (compare x y) := by
  have below {m n x : Nat} (y : Nat) (hx : x < unit) (less : m < n) :
      unit * m + x < unit * n + y := by
    have step := Nat.mul_le_mul_left unit (Nat.succ_le_of_lt less)
    rw [Nat.mul_succ] at step
    omega
  rcases Nat.lt_trichotomy m n with less | rfl | less
  · rw [Nat.compare_eq_lt.2 less, Nat.compare_eq_lt.2 (below y hx less)]
    rfl
  · rw [Nat.compare_eq_eq.2 rfl, Ordering.eq_then, Nat.compare_eq_ite_lt, Nat.compare_eq_ite_lt]
    simp only [Nat.add_lt_add_iff_left]
  · rw [Nat.compare_eq_gt.2 less, Nat.compare_eq_gt.2 (below x hy less)]
    rfl

theorem ofDigitChars_first (c : Char) (cs : List Char) :
    Nat.ofDigitChars 10 (c :: cs) 0 =
      Nat.pow 10 cs.length * (c.toNat - '0'.toNat) + Nat.ofDigitChars 10 cs 0 := by
  rw [Nat.ofDigitChars_cons, Nat.mul_zero, Nat.zero_add, Nat.ofDigitChars_eq_ofDigitChars_zero]
  rfl

theorem ofDigitChars_lt {cs : List Char} (digits : ∀ c ∈ cs, c.isDigit) :
    Nat.ofDigitChars 10 cs 0 < Nat.pow 10 cs.length := by
  induction cs with
  | nil => decide
  | cons c cs ih =>
    have bounds : 48 ≤ c.toNat ∧ c.toNat ≤ 57 :=
      Char.isDigit_iff_toNat.1 (digits c List.mem_cons_self)
    have lower := ih fun d hd => digits d (List.mem_cons_of_mem c hd)
    have first : c.toNat - '0'.toNat ≤ 9 := Nat.sub_le_iff_le_add.2 bounds.2
    calc Nat.ofDigitChars 10 (c :: cs) 0
        = Nat.pow 10 cs.length * (c.toNat - '0'.toNat) + Nat.ofDigitChars 10 cs 0 :=
          ofDigitChars_first c cs
      _ < Nat.pow 10 cs.length * 9 + Nat.pow 10 cs.length :=
        Nat.add_lt_add_of_le_of_lt (Nat.mul_le_mul_left _ first) lower
      _ = Nat.pow 10 (c :: cs).length := rfl

theorem compare_byte (a b : UInt8) : compare a b = compare a.toNat b.toNat := by
  show compareOfLessAndEq a b = compareOfLessAndEq a.toNat b.toNat
  simp only [compareOfLessAndEq, UInt8.lt_iff_toNat_lt, UInt8.toNat_inj]

theorem compare_digit {c d : Char} (hc : c.isDigit) (hd : d.isDigit) :
    compare c.toUInt8 d.toUInt8 = compare (c.toNat - '0'.toNat) (d.toNat - '0'.toNat) := by
  have byte {c : Char} (digit : c.isDigit) : c.toUInt8.toNat = (c.toNat - '0'.toNat) + 48 := by
    have bounds : 48 ≤ c.toNat ∧ c.toNat ≤ 57 := Char.isDigit_iff_toNat.1 digit
    have small : c.toNat % 256 = c.toNat := Nat.mod_eq_of_lt (by omega)
    change c.toNat % 256 = c.toNat - 48 + 48
    omega
  rw [compare_byte, byte hc, byte hd, Nat.compare_eq_ite_lt, Nat.compare_eq_ite_lt]
  simp only [Nat.add_lt_add_iff_right]

theorem compare_digits {xs ys : List Char} (digitsX : ∀ c ∈ xs, c.isDigit)
    (digitsY : ∀ c ∈ ys, c.isDigit) (same : xs.length = ys.length) :
    compare (xs.map Char.toUInt8) (ys.map Char.toUInt8) =
      compare (Nat.ofDigitChars 10 xs 0) (Nat.ofDigitChars 10 ys 0) := by
  rw [List.compare_eq_compareLex]
  induction xs generalizing ys with
  | nil =>
    rw [List.length_eq_zero_iff.1 same.symm]
    rfl
  | cons c xs ih =>
    cases ys with
    | nil => cases same
    | cons d ys =>
      have lengths : xs.length = ys.length := Nat.succ.inj same
      have lowerX (c) (h : c ∈ xs) := digitsX c (List.mem_cons_of_mem _ h)
      have lowerY (c) (h : c ∈ ys) := digitsY c (List.mem_cons_of_mem _ h)
      rw [ofDigitChars_first, ofDigitChars_first, ← lengths,
        compare_place (ofDigitChars_lt lowerX) (lengths ▸ ofDigitChars_lt lowerY),
          List.map_cons, List.map_cons,
        List.compareLex_cons_cons,
          compare_digit (digitsX c List.mem_cons_self) (digitsY d List.mem_cons_self),
        ih lowerX lowerY lengths]

theorem compare_bytes {s t : String} (digitsS : ∀ c ∈ s.toList, c.isDigit)
    (digitsT : ∀ c ∈ t.toList, c.isDigit) (same : s.length = t.length) :
    compare (bytes s) (bytes t) = compare (number s) (number t) := by
  rw [bytes_of_isDigit digitsS, bytes_of_isDigit digitsT]
  exact compare_digits digitsS digitsT same

theorem eq_of_number {s t : String} (digitsS : ∀ c ∈ s.toList, c.isDigit)
    (digitsT : ∀ c ∈ t.toList, c.isDigit) (same : s.length = t.length)
    (equal : number s = number t) : s = t := by
  have bytes_equal := compare_bytes digitsS digitsT same
  rw [Nat.compare_eq_eq.2 equal] at bytes_equal
  exact bytes_inj.1 (Std.compare_eq_iff_eq.1 bytes_equal)

theorem number_padded (width n : Nat) : number (padded width n) = n :=
  ofDigitChars_padded width n

theorem number_toString (n : Nat) : number (toString n) = n := by
  rw [← padded_zero_width, number_padded]

theorem length_padded (width n : Nat) :
    (padded width n).length = max width (Nat.toDigits 10 n).length := by
  rw [padded, String.length_ofList, length_padLeft, Nat.toString_eq_repr, Nat.toList_repr]

theorem length_toDigits_le {m n : Nat} (le : m ≤ n) :
    (Nat.toDigits 10 m).length ≤ (Nat.toDigits 10 n).length := by
  have fits {k : Nat} : (Nat.toDigits 10 k).length ≤ (Nat.toDigits 10 n).length ↔
      k < 10 ^ (Nat.toDigits 10 n).length :=
    Nat.length_toDigits_le_iff (by decide) Nat.length_toDigits_pos
  exact fits.2 (Nat.lt_of_le_of_lt le (fits.1 (Nat.le_refl _)))

theorem padded_number {s : String} (digits : ∀ c ∈ s.toList, c.isDigit) (nonempty : s ≠ "") :
    padded s.length (number s) = s := by
  have positive : 0 < s.length := by
    rw [← String.length_toList]
    exact List.length_pos_iff.2 (mt String.toList_eq_nil_iff.1 nonempty)
  have fits : (Nat.toDigits 10 (number s)).length ≤ s.length :=
    (Nat.length_toDigits_le_iff (by decide) positive).2 (ofDigitChars_lt digits)
  refine eq_of_number (fun c => isDigit_of_mem_padded) digits ?_ (number_padded _ _)
  rw [length_padded, Nat.max_eq_left fits]

end IfaceMonitor.Text
