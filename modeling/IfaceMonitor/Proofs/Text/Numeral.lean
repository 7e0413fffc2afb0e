import IfaceMonitor.Text.Numeral
import Mathlib.Data.List.TakeWhile

namespace IfaceMonitor.Text

theorem digitValue?_of_isDigit {c : Char} (h : c.isDigit) :
    digitValue? 10 c = some (c.toNat - '0'.toNat) := by
  have bounds : 48 ≤ c.toNat ∧ c.toNat ≤ 57 := Char.isDigit_iff_toNat.1 h
  have small : c.toNat - 48 < 10 := by omega
  simp [digitValue?, bounds, small]

theorem foldlM_digits {cs : List Char} (h : ∀ c ∈ cs, c.isDigit) (start : Nat) :
    cs.foldlM (fun n c => (digitValue? 10 c).map (10 * n + ·)) start =
      some (Nat.ofDigitChars 10 cs start) := by
  induction cs generalizing start with
  | nil => rfl
  | cons c cs ih =>
    rw [List.foldlM_cons, digitValue?_of_isDigit (h c List.mem_cons_self), Nat.ofDigitChars_cons]
    exact ih (fun d hd => h d (List.mem_cons_of_mem c hd)) _

theorem dropPlus_of_isDigit {cs : List Char} (h : ∀ c ∈ cs, c.isDigit) : dropPlus cs = cs := by
  cases cs with
  | nil => rfl
  | cons c cs =>
    have digit := h c List.mem_cons_self
    rw [dropPlus]
    intro rest plus
    cases plus
    exact absurd digit (by decide)

theorem readWord?_of_isDigit {s : String} (h : ∀ c ∈ s.toList, c.isDigit) (nonempty : s ≠ "")
    (small : Nat.ofDigitChars 10 s.toList 0 < Nat.pow 2 64) :
    readWord? s = some (Nat.ofDigitChars 10 s.toList 0) := by
  have filled : s.toList.isEmpty = false := by simpa using nonempty
  rw [readWord?, readUnsigned?, dropPlus_of_isDigit h, readDigits?, filled, if_neg (by simp),
    foldlM_digits h]
  exact Option.filter_some_pos (by simpa using small)

theorem readWord?_lt {s : String} {n : Nat} (h : readWord? s = some n) : n < Nat.pow 2 64 := by
  have small := (Option.filter_eq_some_iff.1 h).2
  simpa using small

theorem readSigned?_of_readWord? {s : String} {n : Nat} (h : readWord? s = some n)
    (small : n < Nat.pow 2 63) :
    readSigned? s = some (n : Int) := by
  rw [readWord?, readUnsigned?] at h
  have digits := (Option.filter_eq_some_iff.1 h).1
  rw [readSigned?]
  split
  · next cs minus =>
    rw [minus] at digits
    cases digits
  · rw [readUnsigned?, digits, Option.filter_some_pos (by simpa using small)]
    rfl

theorem toList_padded (width n : Nat) :
    (padded width n).toList =
      List.replicate (width - (Nat.toDigits 10 n).length) '0' ++ Nat.toDigits 10 n := by
  rw [padded, String.toList_ofList, padLeft, Nat.toString_eq_repr, Nat.toList_repr]

theorem padded_zero_width (n : Nat) : padded 0 n = toString n := by
  rw [← String.toList_inj, toList_padded, Nat.toString_eq_repr, Nat.toList_repr]
  simp

theorem isDigit_of_mem_padded {width n : Nat} {c : Char} (h : c ∈ (padded width n).toList) :
    c.isDigit := by
  rw [toList_padded, List.mem_append] at h
  rcases h with h | h
  · rw [List.eq_of_mem_replicate h]
    rfl
  · exact Nat.isDigit_of_mem_toDigits (by decide) (by decide) h

theorem ofDigitChars_padded (width n : Nat) :
    Nat.ofDigitChars 10 (padded width n).toList 0 = n := by
  rw [toList_padded, Nat.ofDigitChars_append, Nat.ofDigitChars_replicate_zero, Nat.mul_zero,
    Nat.ofDigitChars_ten_toDigits]

theorem readWord?_padded (width : Nat) {n : Nat} (small : n < Nat.pow 2 64) :
    readWord? (padded width n) = some n := by
  have value := ofDigitChars_padded width n
  have nonempty : padded width n ≠ "" := by
    intro empty
    have digits := congrArg String.toList empty
    rw [toList_padded] at digits
    exact Nat.toDigits_ne_nil (List.append_eq_nil_iff.1 digits).2
  rw [readWord?_of_isDigit (fun c hc => isDigit_of_mem_padded hc) nonempty (value.symm ▸ small),
    value]

theorem readWord?_toString {n : Nat} (small : n < Nat.pow 2 64) :
    readWord? (toString n) = some n := by
  rw [← padded_zero_width]
  exact readWord?_padded 0 small

theorem head?_toDigits {n : Nat} (positive : 0 < n) : (Nat.toDigits 10 n).head? ≠ some '0' := by
  induction n using Nat.strongRecOn with
  | ind n ih =>
    by_cases small : n < 10
    · have digits : ∀ d < 10, 0 < d → [Nat.digitChar d].head? ≠ some '0' := by decide
      rw [Nat.toDigits_of_lt_base small]
      exact digits n small positive
    · obtain ⟨c, rest, digits⟩ :=
        List.exists_cons_of_ne_nil (Nat.toDigits_ne_nil (n := n / 10) (b := 10))
      have first := ih (n / 10) (by omega) (by omega)
      rw [digits] at first
      rw [Nat.toDigits_of_base_le (by decide) (by omega), digits]
      exact first

def dropZeros (s : String) : String :=
  String.ofList (s.toList.dropWhile (· == '0'))

def isZeros (s : String) : Bool :=
  s.toList.all (· == '0')

theorem dropZeros_padded (width n : Nat) :
    dropZeros (padded width n) = if n = 0 then "" else toString n := by
  have zeros : ∀ c ∈ List.replicate (width - (Nat.toDigits 10 n).length) '0',
      (c == '0') = true := by
    intro c hc
    rw [List.eq_of_mem_replicate hc]
    rfl
  rw [dropZeros, toList_padded, List.dropWhile_append_of_pos zeros, Nat.toString_eq_ofList_toDigits]
  by_cases zero : n = 0
  · subst zero
    rfl
  · rw [if_neg zero, List.dropWhile_beq_eq_self_of_head?_ne
      (head?_toDigits (Nat.pos_of_ne_zero zero))]

theorem dropZeros_eq_self_iff {s : String} : dropZeros s = s ↔ s.toList.head? ≠ some '0' := by
  rw [dropZeros, ← String.toList_inj, String.toList_ofList]
  rcases s.toList with _ | ⟨c, cs⟩
  · simp
  · rw [List.dropWhile_eq_self_iff]
    simp

theorem length_lt_dropZeros (name index : String) :
    index.length < (dropZeros (name ++ " " ++ index)).length := by
  have letters : (name ++ " " ++ index).toList = name.toList ++ ' ' :: index.toList := by simp
  have stop : (' ' :: index.toList).dropWhile (· == '0') = ' ' :: index.toList := rfl
  rw [dropZeros, letters, List.dropWhile_append, stop, String.length_ofList]
  split
  · rw [List.length_cons, String.length_toList]
    omega
  · rw [List.length_append, List.length_cons, String.length_toList]
    omega

theorem isZeros_iff {s : String} : isZeros s = true ↔ dropZeros s = "" := by
  rw [isZeros, List.all_eq_true, ← List.dropWhile_eq_nil_iff, dropZeros, ← String.toList_inj,
    String.toList_ofList]
  rfl

theorem isZeros_padded (width n : Nat) : isZeros (padded width n) = true ↔ n = 0 := by
  rw [isZeros_iff, dropZeros_padded]
  by_cases zero : n = 0
  · simp [zero]
  · simp [zero]

theorem readWord?_of_isZeros {s : String} (h : isZeros s = true) (nonempty : s ≠ "") :
    readWord? s = some 0 := by
  have zeros : s.toList = List.replicate s.toList.length '0' :=
    List.eq_replicate_iff.2 ⟨rfl, fun c hc => eq_of_beq (List.all_eq_true.1 h c hc)⟩
  have digits : ∀ c ∈ s.toList, c.isDigit := by
    intro c hc
    rw [zeros] at hc
    rw [List.eq_of_mem_replicate hc]
    rfl
  have value : Nat.ofDigitChars 10 s.toList 0 = 0 := by
    rw [zeros, Nat.ofDigitChars_replicate_zero, Nat.mul_zero]
  rw [readWord?_of_isDigit digits nonempty (by rw [value]; decide), value]

theorem eq_zero_of_digitValue? {c : Char} (h : digitValue? 10 c = some 0) : c = '0' := by
  simp only [digitValue?, Option.filter_eq_some_iff, Bool.and_eq_true, decide_eq_true_eq] at h
  apply Char.toNat_inj.1
  show c.toNat = 48
  obtain ⟨value, -⟩ := h
  split at value
  · have zero := Option.some.inj value
    omega
  · split at value
    · have zero := Option.some.inj value
      omega
    · split at value
      · have zero := Option.some.inj value
        omega
      · cases value

theorem zeros_of_foldlM {cs : List Char} {start : Nat}
    (h : cs.foldlM (fun n c => (digitValue? 10 c).map (10 * n + ·)) start = some 0) :
    start = 0 ∧ ∀ c ∈ cs, c = '0' := by
  induction cs generalizing start with
  | nil => exact ⟨Option.some.inj h, by simp⟩
  | cons c cs ih =>
    rw [List.foldlM_cons] at h
    cases digit : digitValue? 10 c with
    | none =>
      rw [digit] at h
      cases h
    | some v =>
      rw [digit] at h
      obtain ⟨nothing, rest⟩ := ih h
      obtain ⟨before, zero⟩ := Nat.add_eq_zero_iff.1 nothing
      refine ⟨by omega, fun d hd => ?_⟩
      rcases List.mem_cons.1 hd with rfl | hd
      · exact eq_zero_of_digitValue? (zero ▸ digit)
      · exact rest d hd

theorem isZeros_of_readWord? {s : String} (h : readWord? s = some 0)
    (zero : s.toList.head? = some '0') :
    isZeros s = true := by
  obtain ⟨rest, cut⟩ := List.head?_eq_some_iff.1 zero
  have digits := (Option.filter_eq_some_iff.1 h).1
  have whole : dropPlus s.toList = s.toList := by
    rw [cut]
    rfl
  rw [whole, readDigits?, if_neg (by simp [cut])] at digits
  exact List.all_eq_true.2 fun c hc => beq_iff_eq.2 ((zeros_of_foldlM digits).2 c hc)

end IfaceMonitor.Text
