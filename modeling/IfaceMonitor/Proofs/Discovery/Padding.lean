import IfaceMonitor.Proofs.Discovery.Drafts
import IfaceMonitor.Proofs.Text.Digits

namespace IfaceMonitor

def Section.paddedIndex (interfaces : Section) (i : Interface) : String :=
  indexText i.attributes.index (indexWidth? (interfaces.map (·.attributes)))

theorem exists_indexWidth? {as : List Attributes} {a : Attributes} (member : a ∈ as) {n : Nat}
    (read : Text.readWord? a.index = some n) :
    ∃ width, indexWidth? as = some width ∧ (Nat.toDigits 10 n).length ≤ width := by
  have found : n ∈ as.filterMap fun a => Text.readWord? a.index :=
    List.mem_filterMap.2 ⟨a, member, read⟩
  cases largest : (as.filterMap fun a => Text.readWord? a.index).max? with
  | none =>
    rw [List.max?_eq_none_iff.1 largest] at found
    cases found
  | some m =>
    have below : n ≤ m := (List.max?_eq_some_iff.1 largest).2 n found
    refine ⟨(Nat.toDigits 10 m).length, ?_, Text.length_toDigits_le below⟩
    rw [indexWidth?, largest, Option.map_some, Nat.toString_eq_repr, ← String.length_toList,
      Nat.toList_repr]

theorem Section.paddedIndex_eq {interfaces : Section} {i : Interface} {width n : Nat}
    (widest : indexWidth? (interfaces.map (·.attributes)) = some width)
    (read : Text.readWord? i.attributes.index = some n) :
    interfaces.paddedIndex i = Text.padded width n := by
  simp only [paddedIndex, widest, indexText, read]

/-- Padded numbers have one length, and their bytes are ordered like the numbers. -/
theorem paddedIndex_sorts {interfaces : Section} {i j : Interface} (memberI : i ∈ interfaces)
    (memberJ : j ∈ interfaces) {m n : Nat} (readI : Text.readWord? i.attributes.index = some m)
    (readJ : Text.readWord? j.attributes.index = some n) :
    (Text.bytes (interfaces.paddedIndex i)).length =
      (Text.bytes (interfaces.paddedIndex j)).length ∧
      compare (Text.bytes (interfaces.paddedIndex i)) (Text.bytes (interfaces.paddedIndex j)) =
        compare m n ∧
      (interfaces.paddedIndex i = interfaces.paddedIndex j ↔ m = n) := by
  obtain ⟨width, widest, fitsI⟩ := exists_indexWidth? (List.mem_map_of_mem memberI) readI
  obtain ⟨_, widest', fitsJ⟩ := exists_indexWidth? (List.mem_map_of_mem memberJ) readJ
  cases widest.symm.trans widest'
  rw [Section.paddedIndex_eq widest readI, Section.paddedIndex_eq widest readJ]
  have digits (n : Nat) : ∀ c ∈ (Text.padded width n).toList, c.isDigit := fun c =>
    Text.isDigit_of_mem_padded
  have same : (Text.padded width m).length = (Text.padded width n).length := by
    rw [Text.length_padded, Text.length_padded, Nat.max_eq_left fitsI, Nat.max_eq_left fitsJ]
  refine ⟨?_, ?_, ?_⟩
  · rw [Text.length_bytes (digits m), Text.length_bytes (digits n), same]
  · rw [Text.compare_bytes (digits m) (digits n) same, Text.number_padded, Text.number_padded]
  · constructor
    · intro equal
      rw [← Text.number_padded width m, equal, Text.number_padded]
    · exact fun equal => equal ▸ rfl

open Discovery in
theorem paddedIndex_of_nine_and_ten :
    compare (Text.bytes
      (Section.paddedIndex [upPort "10" "eth" none, upPort "9" "eth" none] (upPort "9" "eth" none)))
      (Text.bytes (Section.paddedIndex [upPort "10" "eth" none, upPort "9" "eth" none]
        (upPort "10" "eth" none))) = .lt := by
  have read9 : Text.readWord? (upPort "9" "eth" none).attributes.index = some 9 := by decide
  have read10 : Text.readWord? (upPort "10" "eth" none).attributes.index = some 10 := by decide
  obtain ⟨-, order, -⟩ := paddedIndex_sorts (.tail _ (.head _)) (.head _) read9 read10
  exact order

end IfaceMonitor
