import IfaceMonitor.Check.Lookup
import IfaceMonitor.Proofs.Text.Numeral
import Mathlib.Data.List.Basic

namespace IfaceMonitor

def Section.Plain (interfaces : Section) : Prop :=
  ∀ i, interfaces.head? = some i → i.attributes.node = none

theorem Section.meantBy_of_plain {interfaces : Section} (plain : interfaces.Plain) (item : String)
    (source : Option NameSource) :
    interfaces.meantBy item source =
      (Lookup.first? item source Interface.attributes interfaces).toList := by
  cases interfaces with
  | nil => rfl
  | cons i rest =>
    have none : i.attributes.node.isNone = true := by rw [plain i rfl]; rfl
    rw [Section.meantBy, Lookup.matchesIn, if_pos none]

theorem Section.meantBy_cases_of_plain {interfaces : Section} (plain : interfaces.Plain)
    (item : String) (source : Option NameSource) :
    interfaces.meantBy item source = [] ∨ ∃ i, interfaces.meantBy item source = [i] := by
  rw [meantBy_of_plain plain]
  cases Lookup.first? item source Interface.attributes interfaces with
  | none => exact Or.inl rfl
  | some i => exact Or.inr ⟨i, rfl⟩

def Attributes.field (a : Attributes) : NameSource → String
  | .index => a.index
  | .descr => a.descr
  | .aliasName => a.aliasName

namespace Lookup

theorem isSimple_index (item : String) (a : Attributes) :
    isSimple item (some .index) a = isIndex item a := by
  show (true && isIndex item a || false && _ || false && _) = isIndex item a
  simp

theorem isCompound_index (item : String) (a : Attributes) :
    isCompound item (some .index) a = false := rfl

theorem isSimple_field {source : NameSource} (other : source ≠ .index) (item : String)
    (a : Attributes) :
    isSimple item (some source) a = true ↔ item = a.field source := by
  cases source
  · exact absurd rfl other
  · simp [isSimple, allows, Attributes.field]
  · simp [isSimple, allows, Attributes.field]

theorem isCompound_field {source : NameSource} (other : source ≠ .index) (item : String)
    (a : Attributes) :
    isCompound item (some source) a = true ↔ item = a.field source ++ " " ++ a.index := by
  cases source
  · exact absurd rfl other
  · simp [isCompound, allows, Attributes.field]
  · simp [isCompound, allows, Attributes.field]

theorem isIndex_iff {item : String} {a : Attributes} :
    isIndex item a = true ↔ Text.dropZeros item = a.index ∨
      Text.isZeros item = true ∧ (Text.readSigned? a.index).getD 0 = 0 := by
  simp [isIndex, Text.dropZeros, Text.isZeros]

theorem isIndex_other {item : String} {x y : Attributes} (found : isIndex item x = true)
    (apart : y.index ≠ x.index) :
    isIndex item y = true ↔
      Text.isZeros item = true ∧ (Text.readSigned? y.index).getD 0 = 0 := by
  rw [isIndex_iff]
  constructor
  · rintro (same | zeros)
    · rcases isIndex_iff.1 found with own | ⟨zeros, -⟩
      · exact absurd (same.symm.trans own) apart
      · refine ⟨zeros, ?_⟩
        rw [← same, Text.isZeros_iff.1 zeros]
        rfl
    · exact zeros
  · exact Or.inr

section FirstMatch
variable {α : Type} {before after : List α} {x : α}

theorem find?_eq_some_split (new : x ∉ before) (p : α → Bool) :
    (before ++ x :: after).find? p = some x ↔ p x = true ∧ ∀ y ∈ before, ¬p y = true := by
  rw [List.find?_append, Option.or_eq_some_iff]
  constructor
  · rintro (earlier | ⟨nothing, here⟩)
    · exact absurd (List.mem_of_find?_eq_some earlier) new
    · exact ⟨List.find?_some here, List.find?_eq_none.1 nothing⟩
  · rintro ⟨here, nothing⟩
    exact Or.inr ⟨List.find?_eq_none.2 nothing, List.find?_cons_of_pos here⟩

theorem first?_eq_some_split (new : x ∉ before) (item : String) (source : Option NameSource)
    (attributes : α → Attributes) :
    first? item source attributes (before ++ x :: after) = some x ↔
      (isSimple item source (attributes x) = true ∧
        ∀ y ∈ before, ¬isSimple item source (attributes y) = true) ∨
      (∀ y ∈ before ++ x :: after, ¬isSimple item source (attributes y) = true) ∧
        isCompound item source (attributes x) = true ∧ ∀ y ∈ before,
          ¬isCompound item source (attributes y) = true := by
  rw [first?, Option.orElse_eq_orElse, Option.orElse_eq_or, Option.or_eq_some_iff,
    find?_eq_some_split new, find?_eq_some_split new, List.find?_eq_none]

end FirstMatch

end Lookup

end IfaceMonitor
