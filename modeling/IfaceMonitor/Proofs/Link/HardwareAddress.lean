import IfaceMonitor.Proofs.Link.RoundTrip
import Mathlib.Data.Nat.Digits.Defs

namespace IfaceMonitor

theorem Text.splitWhen_eq_splitOn (c : Char) (cs : List Char) :
    Text.splitWhen (· == c) cs = cs.splitOn c := by
  induction cs with
  | nil => rfl
  | cons d cs ih =>
    rw [Text.splitWhen, List.splitOn_cons_eq_if_modifyHead, ih]
    split
    · rfl
    · cases pieces : cs.splitOn c with
      | nil => exact absurd pieces (List.splitOn_ne_nil c cs)
      | cons piece pieces => rfl

namespace HardwareAddress

def IsDigit (c : Char) (d : ℕ) : Prop :=
  "0123456789abcdef".toList[d]? = some c ∨ "0123456789ABCDEF".toList[d]? = some c

def IsNumeral (cs : List Char) (n : ℕ) : Prop :=
  cs ≠ [] ∧ ∃ ds, List.Forall₂ IsDigit cs ds ∧ n = Nat.ofDigits 16 ds.reverse

def Spells (piece : List Char) (b : UInt8) : Prop :=
  ∃ cs, (piece = cs ∨ piece = '+' :: cs) ∧ IsNumeral cs b.toNat

theorem IsDigit.lt {c : Char} {d : ℕ} (h : IsDigit c d) : d < 16 := by
  rcases h with h | h <;> exact (List.getElem?_eq_some_iff.1 h).1

theorem digitValue?_eq_some_iff {c : Char} {d : ℕ} :
    Text.digitValue? 16 c = some d ↔ IsDigit c d := by
  constructor
  · intro value
    have ascii : c.toNat < 128 := by
      simp only [Text.digitValue?, Option.filter_eq_some_iff, Bool.and_eq_true,
        decide_eq_true_eq] at value
      obtain ⟨value, -⟩ := value
      split at value
      · omega
      · split at value
        · omega
        · split at value
          · omega
          · cases value
    have small : d < 16 := by simpa using (Option.filter_eq_some_iff.1 value).2
    have table : ∀ n < 128, ∀ d < 16, Text.digitValue? 16 (Char.ofNat n) = some d →
        "0123456789abcdef".toList[d]? = some (Char.ofNat n) ∨
            "0123456789ABCDEF".toList[d]? = some (Char.ofNat n) := by
      decide +kernel
    rw [← Char.ofNat_toNat c] at value ⊢
    exact table c.toNat ascii d small value
  · intro digit
    have small := digit.lt
    rcases digit with digit | digit <;> interval_cases d <;> cases digit <;> rfl

theorem foldlM_eq_some_iff {cs : List Char} {start n : ℕ} :
    cs.foldlM (fun n c => (Text.digitValue? 16 c).map (16 * n + ·)) start = some n ↔
      ∃ ds, List.Forall₂ IsDigit cs ds ∧
        n = 16 ^ cs.length * start + Nat.ofDigits 16 ds.reverse := by
  induction cs generalizing start with
  | nil => simp [eq_comm]
  | cons c cs ih =>
    rw [List.foldlM_cons]
    simp only [Option.bind_eq_bind, Option.bind_eq_some_iff, Option.map_eq_some_iff,
      digitValue?_eq_some_iff, ih, List.forall₂_cons_left_iff]
    have place (d : ℕ) {ds : List ℕ} (digits : List.Forall₂ IsDigit cs ds) :
        16 ^ cs.length * (16 * start + d) + Nat.ofDigits 16 ds.reverse =
          16 ^ (c :: cs).length * start + Nat.ofDigits 16 (d :: ds).reverse := by
      rw [List.reverse_cons, Nat.ofDigits_append, Nat.ofDigits_singleton, List.length_reverse,
        ← digits.length_eq, List.length_cons]
      ring
    constructor
    · rintro ⟨_, ⟨d, digit, rfl⟩, ds, digits, rfl⟩
      exact ⟨d :: ds, ⟨d, ds, digit, digits, rfl⟩, place d digits⟩
    · rintro ⟨_, ⟨d, ds, digit, digits, rfl⟩, rfl⟩
      exact ⟨_, ⟨d, digit, rfl⟩, ds, digits, (place d digits).symm⟩

theorem readDigits?_eq_some_iff {cs : List Char} {n : ℕ} :
    Text.readDigits? 16 cs = some n ↔ IsNumeral cs n := by
  rw [Text.readDigits?, IsNumeral]
  cases cs with
  | nil => simp
  | cons c cs =>
    rw [List.isEmpty_cons, if_neg Bool.false_ne_true, foldlM_eq_some_iff]
    simp

theorem not_isNumeral_of_plus {cs : List Char} {n : ℕ} : ¬IsNumeral ('+' :: cs) n := by
  rintro ⟨-, _, digits, -⟩
  cases digits with
  | cons digit =>
    rw [← digitValue?_eq_some_iff] at digit
    cases digit

theorem spells_iff {piece : List Char} {b : UInt8} :
    Spells piece b ↔ IsNumeral (Text.dropPlus piece) b.toNat := by
  constructor
  · rintro ⟨cs, rfl | rfl, numeral⟩
    · have unsigned : Text.dropPlus piece = piece := by
        rw [Text.dropPlus]
        rintro cs rfl
        exact not_isNumeral_of_plus numeral
      rwa [unsigned]
    · exact numeral
  · intro numeral
    refine ⟨Text.dropPlus piece, ?_, numeral⟩
    rw [Text.dropPlus.eq_def]
    split
    · exact .inr rfl
    · exact .inl rfl

theorem readByte?_eq_some_iff {piece : List Char} {b : UInt8} :
    readByte? piece = some b ↔ Spells piece b := by
  rw [readByte?, Text.readUnsigned?, spells_iff]
  simp only [Option.map_eq_some_iff, Option.filter_eq_some_iff, readDigits?_eq_some_iff,
    decide_eq_true_eq]
  constructor
  · rintro ⟨n, ⟨numeral, small⟩, rfl⟩
    rwa [Nat.toUInt8_eq, UInt8.toNat_ofNat_of_lt' small]
  · exact fun numeral => ⟨b.toNat, ⟨numeral, b.toNat_lt⟩, UInt8.ofNat_toNat⟩

theorem Spells.ne_nil {piece : List Char} {b : UInt8} (h : Spells piece b) : piece ≠ [] := by
  obtain ⟨cs, rfl | rfl, filled, -⟩ := h
  · exact filled
  · exact List.cons_ne_nil _ _

theorem Spells.no_colon {piece : List Char} {b : UInt8} (h : Spells piece b) : ':' ∉ piece := by
  obtain ⟨cs, sign, -, ds, digits, -⟩ := h
  have plain : ':' ∉ cs := by
    intro colon
    obtain ⟨i, bound, at_colon⟩ := List.getElem_of_mem colon
    have digit :=
      digits.get (i := i) (by simpa using bound) (by simpa [← digits.length_eq] using bound)
    rw [List.get_eq_getElem, at_colon, ← digitValue?_eq_some_iff] at digit
    cases digit
  rcases sign with rfl | rfl
  · exact plain
  · simpa using plain

theorem no_colon_of_spelled {pieces : List (List Char)} {bytes : List UInt8}
    (spelled : List.Forall₂ Spells pieces bytes) :
    ∀ piece ∈ pieces, ':' ∉ piece := by
  induction spelled with
  | nil => exact List.forall_mem_nil _
  | cons spells _ ih => exact List.forall_mem_cons.2 ⟨spells.no_colon, ih⟩

theorem parse?_eq_some_iff {text : String} (filled : text ≠ "") {bytes : List UInt8} :
    parse? text = some ⟨bytes⟩ ↔ List.Forall₂ Spells (text.toList.splitOn ':') bytes := by
  have present : text.isEmpty = false := by simpa using filled
  rw [parse?, present, if_neg Bool.false_ne_true, Text.splitWhen_eq_splitOn, Option.map_eq_some_iff]
  simp only [HardwareAddress.mk.injEq, exists_eq_right, mapM_eq_some, readByte?_eq_some_iff]

theorem parse_eq_ok_iff {text : String} {a : HardwareAddress} :
    parse text = .ok a ↔ parse? text = some a := by
  rw [parse]
  cases parse? text <;> simp

/-- The text of every address is read as that address. The texts that are read at all are the empty
one, which has no bytes, and numerals up to FF between colons, whose numbers are the bytes in
order. -/
theorem addresses_of_texts :
    (∀ a : HardwareAddress, parse a.text = .ok a) ∧
      ∀ (text : String) (bytes : List UInt8), parse text = .ok ⟨bytes⟩ ↔
        (text = "" ∧ bytes = []) ∨
          ∃ pieces : List (List Char), pieces ≠ [] ∧
            text.toList = [':'].intercalate pieces ∧ List.Forall₂ Spells pieces bytes := by
  refine ⟨parse_text, fun text bytes => ?_⟩
  rw [parse_eq_ok_iff]
  by_cases filled : text = ""
  · subst filled
    refine ⟨fun read =>
      .inl ⟨rfl, (HardwareAddress.mk.inj (Option.some.inj read)).symm⟩, ?_⟩
    rintro (⟨-, rfl⟩ | ⟨pieces, some_piece, written, spelled⟩)
    · rfl
    · cases spelled with
      | nil => exact absurd rfl some_piece
      | @cons piece b rest _ first =>
        cases rest <;> exact absurd written.symm (by simp [List.intercalate, first.ne_nil])
  · rw [parse?_eq_some_iff filled]
    constructor
    · exact fun spelled =>
        .inr ⟨_, List.splitOn_ne_nil _ _, (List.intercalate_splitOn ':').symm, spelled⟩
    · rintro (⟨empty, -⟩ | ⟨pieces, some_piece, written, spelled⟩)
      · exact absurd empty filled
      · rwa [written, List.splitOn_intercalate ':' (no_colon_of_spelled spelled) some_piece]

example : parse "+0A:b:000" = .ok ⟨[10, 11, 0]⟩ := by rfl

end HardwareAddress

end IfaceMonitor
