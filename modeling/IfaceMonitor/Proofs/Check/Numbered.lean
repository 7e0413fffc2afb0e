import IfaceMonitor.Proofs.Check.Lookup
import IfaceMonitor.Proofs.Discovery.Drafts
import IfaceMonitor.Proofs.Text.Digits

namespace IfaceMonitor

namespace Text

theorem dropZeros_of_digits {item : String} (digits : ∀ c ∈ item.toList, c.isDigit) :
    dropZeros item = if number item = 0 then "" else toString (number item) := by
  by_cases empty : item = ""
  · subst empty
    rfl
  · rw [← dropZeros_padded item.length, padded_number digits empty]

theorem dropZeros_zeros_append (zeros : Nat) (item : String) :
    dropZeros (String.ofList (List.replicate zeros '0') ++ item) = dropZeros item := by
  have dropped : ∀ c ∈ List.replicate zeros '0', (c == '0') = true := by
    intro c member
    rw [List.eq_of_mem_replicate member]
    rfl
  rw [dropZeros, String.toList_append, String.toList_ofList,
    List.dropWhile_append_of_pos dropped, dropZeros]

theorem readSigned?_empty : readSigned? "" = none := by
  decide

end Text

namespace Lookup

def takes (number : Nat) (index : String) : Bool :=
  if number = 0 then (Text.readSigned? index).getD 0 == 0 else index == toString number

def hasNumber (number : Nat) (index : String) : Bool :=
  Text.readWord? index == some number

theorem isIndex_of_digits {item : String} (digits : ∀ c ∈ item.toList, c.isDigit)
    (a : Attributes) :
    isIndex item a = takes (Text.number item) a.index := by
  rw [Bool.eq_iff_iff, isIndex_iff, Text.isZeros_iff, Text.dropZeros_of_digits digits, takes]
  by_cases zero : Text.number item = 0
  · rw [if_pos zero, if_pos zero, beq_iff_eq]
    constructor
    · rintro (empty | ⟨-, read⟩)
      · rw [← empty, Text.readSigned?_empty]
        rfl
      · exact read
    · exact fun read => Or.inr ⟨rfl, read⟩
  · rw [if_neg zero, if_neg zero, beq_iff_eq]
    constructor
    · rintro (same | ⟨empty, -⟩)
      · exact same.symm
      · exact absurd (Nat.toString_eq_repr ▸ empty) Nat.repr_ne_empty
    · exact fun same => Or.inl same.symm

theorem isIndex_zeros_append (zeros : Nat) (item : String) (a : Attributes) :
    isIndex (String.ofList (List.replicate zeros '0') ++ item) a = isIndex item a := by
  rw [Bool.eq_iff_iff, isIndex_iff, isIndex_iff, Text.isZeros_iff, Text.isZeros_iff,
    Text.dropZeros_zeros_append]

/-- An index that is taken for a number that it does not have, or not taken for the one that it
has. -/
inductive Misread (number : Nat) (index : String) : Prop
  | missed (positive : number ≠ 0) (read : Text.readWord? index = some number)
      (spelled : index ≠ toString number)
  | tooLarge (same : index = toString number) (large : Nat.pow 2 64 ≤ number)
  | passedForZero (zero : number = 0) (different : Text.readWord? index ≠ some 0)
      (unread : Text.readSigned? index = none ∨ Text.readSigned? index = some 0)

theorem misread_iff (number : Nat) (index : String) :
    Misread number index ↔ takes number index ≠ hasNumber number index := by
  rw [ne_eq, Bool.eq_iff_iff, takes, hasNumber, beq_iff_eq]
  by_cases zero : number = 0
  · have unread : (Text.readSigned? index).getD 0 = 0 ↔
        Text.readSigned? index = none ∨ Text.readSigned? index = some 0 := by
      cases Text.readSigned? index <;> simp
    rw [if_pos zero, beq_iff_eq, unread, zero]
    constructor
    · rintro (⟨positive, -, -⟩ | ⟨-, large⟩ | ⟨-, different, unread⟩) agree
      · exact positive rfl
      · exact absurd large (by decide)
      · exact different (agree.1 unread)
    · intro apart
      -- An index with the number zero is read with a sign too, so zero never misses.
      have different : Text.readWord? index ≠ some 0 := fun read =>
        apart (iff_of_true (Or.inr (Text.readSigned?_of_readWord? read (by decide))) read)
      exact .passedForZero rfl different
        (by_contra fun other => apart (iff_of_false other different))
  · rw [if_neg zero, beq_iff_eq]
    constructor
    · rintro (⟨-, read, spelled⟩ | ⟨same, large⟩ | ⟨zero', -, -⟩) agree
      · exact spelled (agree.2 read)
      · exact absurd (Text.readWord?_lt (agree.1 same)) (Nat.not_lt.2 large)
      · exact zero zero'
    · intro apart
      by_cases same : index = toString number
      · refine .tooLarge same (Nat.not_lt.1 fun small => apart (iff_of_true same ?_))
        rw [same, Text.readWord?_toString small]
      · exact .missed zero (by_contra fun unread => apart (iff_of_false same unread)) same

theorem not_misread_toString {n : Nat} (small : n < Nat.pow 2 63) (number : Nat) :
    ¬Misread number (toString n) := by
  have word : n < Nat.pow 2 64 := small.trans (by decide)
  have read := Text.readWord?_toString word
  rintro (⟨-, other, spelled⟩ | ⟨same, large⟩ | ⟨-, different, unread⟩)
  · rw [read] at other
    exact spelled (congrArg toString (Option.some.inj other))
  · have equal := congrArg Text.number same
    rw [Text.number_toString, Text.number_toString] at equal
    exact absurd word (equal ▸ Nat.not_lt.2 large)
  · rw [Text.readSigned?_of_readWord? read small] at unread
    rcases unread with none | zero
    · cases none
    · exact different (read.trans (congrArg some (Int.ofNat_eq_zero.1 (Option.some.inj zero))))

theorem find?_eq_find?_iff {α : Type} {p q : α → Bool} {xs : List α} :
    xs.find? p = xs.find? q ↔ ∀ x, xs.find? (fun x => p x || q x) = some x → p x = q x := by
  induction xs with
  | nil => simp
  | cons x rest ih =>
    have later {r : α → Bool} (skipped : r x = false) : rest.find? r ≠ some x := by
      intro found
      rw [List.find?_some found] at skipped
      cases skipped
    cases hp : p x <;> cases hq : q x
    · simpa only [List.find?_cons, hp, hq, Bool.or_self] using ih
    · simp [hp, hq, later hp]
    · simp [hp, hq, (later hq).symm]
    · simp [hp, hq]

theorem first?_index {α : Type} (item : String) (attributes : α → Attributes) (xs : List α) :
    first? item (some .index) attributes xs = xs.find? fun x => isIndex item (attributes x) := by
  have none_compound : xs.find? (fun x => isCompound item (some .index) (attributes x)) = none :=
    List.find?_eq_none.2 fun x _ => Bool.eq_false_iff.1 (isCompound_index item (attributes x))
  rw [first?, none_compound, Option.orElse_eq_orElse, Option.orElse_eq_or, Option.or_none]
  simp only [isSimple_index]

end Lookup

open Lookup

def Section.firstNumbered? (interfaces : Section) (number : Nat) : Option Interface :=
  interfaces.find? fun i => hasNumber number i.attributes.index

/-- An item of digits finds the first interface whose index is its numeral, or that passes for zero.
That is the first one with its number exactly if none that is misread comes first, as where all
indices are plain numerals. -/
theorem meantBy_digits {interfaces : Section} (plain : interfaces.Plain) {item : String}
    (digits : ∀ c ∈ item.toList, c.isDigit) :
    interfaces.meantBy item (some .index) =
        (interfaces.find? fun i => takes (Text.number item) i.attributes.index).toList ∧
      (interfaces.meantBy item (some .index) =
        (interfaces.firstNumbered? (Text.number item)).toList ↔
        ∀ i, interfaces.find? (fun i => takes (Text.number item) i.attributes.index ||
            hasNumber (Text.number item) i.attributes.index) = some i →
          ¬Misread (Text.number item) i.attributes.index) ∧
      ((∀ i ∈ interfaces, ∃ n < Nat.pow 2 63, i.attributes.index = toString n) →
        interfaces.meantBy item (some .index) =
          (interfaces.firstNumbered? (Text.number item)).toList) ∧
      ∀ zeros, interfaces.meantBy (String.ofList (List.replicate zeros '0') ++ item)
        (some .index) =
        interfaces.meantBy item (some .index) := by
  have taken : interfaces.meantBy item (some .index) =
      (interfaces.find? fun i => takes (Text.number item) i.attributes.index).toList := by
    rw [Section.meantBy_of_plain plain, first?_index]
    simp only [isIndex_of_digits digits]
  have agreement : interfaces.meantBy item (some .index) =
      (interfaces.firstNumbered? (Text.number item)).toList ↔
        ∀ i, interfaces.find? (fun i => takes (Text.number item) i.attributes.index ||
            hasNumber (Text.number item) i.attributes.index) = some i →
          ¬Misread (Text.number item) i.attributes.index := by
    have same {a b : Option Interface} : a.toList = b.toList ↔ a = b := by
      cases a <;> cases b <;> simp
    rw [taken, same, Section.firstNumbered?, find?_eq_find?_iff]
    simp only [misread_iff, not_not]
  refine ⟨taken, agreement, fun numerals => agreement.2 fun i found => ?_, fun zeros => ?_⟩
  · obtain ⟨n, small, written⟩ := numerals i (List.mem_of_find?_eq_some found)
    rw [written]
    exact not_misread_toString small _
  · rw [Section.meantBy_of_plain plain, Section.meantBy_of_plain plain, first?_index, first?_index]
    simp only [isIndex_zeros_append]

open Discovery in
theorem meantBy_padded_eight :
    Section.meantBy [upPort "18" "eth" none, upPort "8" "eth" none] "008" (some .index) =
      [upPort "8" "eth" none] := by
  have plain : Section.Plain [upPort "18" "eth" none, upPort "8" "eth" none] := by
    rintro i ⟨⟩
    rfl
  have digits : ∀ c ∈ "008".toList, c.isDigit := by simp
  obtain ⟨-, -, numbered, -⟩ := meantBy_digits plain digits
  refine (numbered ?_).trans rfl
  rintro i (_ | ⟨_, _ | ⟨_, ⟨⟩⟩⟩)
  · exact ⟨18, by decide, rfl⟩
  · exact ⟨8, by decide, rfl⟩

open Discovery in
theorem meantBy_of_misread_indices :
    Section.meantBy [upPort "eth0" "uplink" none, upPort "007" "spare" none] "0" (some .index) =
        [upPort "eth0" "uplink" none] ∧
      Section.firstNumbered? [upPort "eth0" "uplink" none, upPort "007" "spare" none] 0 = none ∧
      Section.meantBy [upPort "eth0" "uplink" none, upPort "007" "spare" none] "7"
        (some .index) = [] ∧
      Section.firstNumbered? [upPort "eth0" "uplink" none, upPort "007" "spare" none] 7 =
        some (upPort "007" "spare" none) :=
  ⟨rfl, rfl, rfl, rfl⟩

end IfaceMonitor
