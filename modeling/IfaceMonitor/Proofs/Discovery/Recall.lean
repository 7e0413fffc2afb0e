import IfaceMonitor.Proofs.Check.Lookup
import IfaceMonitor.Proofs.Discovery.Drafts

namespace IfaceMonitor

namespace Discovery

def draftOf (rules : List DiscoveryRule) (interfaces : Section) (i : Interface) : DraftItem :=
  singleDraft (settingsFor rules i.attributes)
    (indexWidth? (interfaces.map (·.attributes))) i.attributes

def serviceOf (rules : List DiscoveryRule) (interfaces : Section) (i : Interface) : Service :=
  (draftOf rules interfaces i).toService (allNames rules interfaces)

theorem singles_of_distinct (rules : List DiscoveryRule) (width : Option Nat) {seen : List String}
    {as : List Attributes} (distinct : as.Pairwise (·.index ≠ ·.index))
    (new : ∀ a ∈ as, a.index ∉ seen) :
    singles rules width seen as =
      (as.filter fun a => (settingsFor rules a).enabled).map fun a =>
        singleDraft (settingsFor rules a) width a := by
  induction as generalizing seen with
  | nil => rfl
  | cons a rest ih =>
    obtain ⟨apart, others⟩ := List.pairwise_cons.1 distinct
    have unmet : seen.contains a.index = false := by simpa using new a List.mem_cons_self
    have newRest : ∀ b ∈ rest, b.index ∉ seen := fun b hb => new b (List.mem_cons_of_mem a hb)
    rw [singles]
    cases enabled : (settingsFor rules a).enabled with
    | false =>
      simp only [Bool.false_and, Bool.false_eq_true, if_false]
      rw [List.filter_cons_of_neg (by simp [enabled])]
      exact ih others newRest
    | true =>
      simp only [unmet, Bool.not_false, Bool.and_true, if_true]
      rw [List.filter_cons_of_pos (by simp [enabled]), List.map_cons, ih others]
      intro b hb met
      rcases List.mem_cons.1 met with same | met
      · exact apart b hb same.symm
      · exact newRest b hb met

theorem single_services {interfaces : Section}
    (distinct : interfaces.Pairwise (·.attributes.index ≠ ·.attributes.index))
    (rules : List DiscoveryRule) :
    (findServices rules interfaces).filter (·.parameters.group.isNone) =
      (interfaces.filter fun i => (settingsFor rules i.attributes).enabled).map
        (serviceOf rules interfaces) := by
  have singleOnes : singleDrafts rules interfaces =
      (interfaces.filter fun i => (settingsFor rules i.attributes).enabled).map
          (draftOf rules interfaces) := by
    rw [singleDrafts, singles_of_distinct rules _ (List.pairwise_map.2 distinct) (by simp),
      List.filter_map, List.map_map]
    rfl
  have kept : (singleDrafts rules interfaces).filter (·.parameters.group.isNone) =
      singleDrafts rules interfaces := by
    refine List.filter_eq_self.2 fun d member => ?_
    rw [ungrouped_of_mem_singleDrafts member]
    rfl
  have left : (groupDrafts rules interfaces).filter (·.parameters.group.isNone) = [] := by
    refine List.filter_eq_nil_iff.2 fun d member => ?_
    simpa using Option.isSome_iff_ne_none.1 (grouped_of_mem_groupDrafts member)
  have drafted : (drafts rules interfaces).filter (·.parameters.group.isNone) =
      singleDrafts rules interfaces := by
    rw [drafts, List.filter_append, kept, left, List.append_nil]
  calc (findServices rules interfaces).filter (·.parameters.group.isNone)
      = ((drafts rules interfaces).filter (·.parameters.group.isNone)).map
          (·.toService (allNames rules interfaces)) :=
            filter_findServices rules interfaces (·.group.isNone)
    _ = _ := by
        rw [drafted, singleOnes, List.map_map]
        rfl

/-- An index that its own item is taken for: zero, or written without zeros in front and, if it is a
number and the item is padded, as the number is shown. -/
def Retold (width : Option Nat) (index : String) : Prop :=
  Text.readWord? index = some 0 ∨
    index.toList.head? ≠ some '0' ∧ (width.isSome = true → shownIndex index = index)

theorem isIndex_padded {a : Attributes} {n : Nat} (number : Text.readWord? a.index = some n)
    (width : Nat) :
    Lookup.isIndex (Text.padded width n) a = true ↔ n = 0 ∨ toString n = a.index := by
  rw [Lookup.isIndex_iff, Text.dropZeros_padded, Text.isZeros_padded]
  by_cases zero : n = 0
  · subst zero
    have value := Text.readSigned?_of_readWord? number (by decide)
    simp [value]
  · simp [zero]

theorem isIndex_self {a : Attributes} :
    Lookup.isIndex a.index a = true ↔
      Text.readWord? a.index = some 0 ∨ a.index.toList.head? ≠ some '0' := by
  rw [Lookup.isIndex_iff, Text.dropZeros_eq_self_iff]
  constructor
  · rintro (first | ⟨zeros, -⟩)
    · exact Or.inr first
    · by_cases empty : a.index = ""
      · exact Or.inr (by simp [empty])
      · exact Or.inl (Text.readWord?_of_isZeros zeros empty)
  · rintro (zero | first)
    · by_cases first : a.index.toList.head? = some '0'
      · have value := Text.readSigned?_of_readWord? zero (by decide)
        refine Or.inr ⟨Text.isZeros_of_readWord? zero first, ?_⟩
        rw [value]
        rfl
      · exact Or.inl first
    · exact Or.inl first

theorem isIndex_indexText (width : Option Nat) (a : Attributes) :
    Lookup.isIndex (indexText a.index width) a = true ↔ Retold width a.index := by
  cases number : Text.readWord? a.index with
  | none =>
    have text : indexText a.index width = a.index := by simp only [indexText, number]
    have shown : shownIndex a.index = a.index := by simp only [shownIndex, number]
    rw [text, isIndex_self, Retold, number, shown]
    simp
  | some n =>
    cases width with
    | none =>
      show Lookup.isIndex a.index a = true ↔ _
      rw [isIndex_self, Retold]
      simp
    | some width =>
      have text : indexText a.index (some width) = Text.padded width n := by
        simp only [indexText, number]
      have shown : shownIndex a.index = toString n := by simp only [shownIndex, number]
      rw [text, isIndex_padded number, Retold, number, shown]
      simp only [Option.some.injEq, Option.isSome_some, forall_const]
      constructor
      · rintro (zero | written)
        · exact Or.inl zero
        · by_cases zero : n = 0
          · exact Or.inl zero
          · have first := Text.head?_toDigits (Nat.pos_of_ne_zero zero)
            refine Or.inr ⟨?_, written⟩
            rw [← written, Nat.toString_eq_repr, Nat.toList_repr]
            exact first
      · rintro (zero | ⟨-, written⟩)
        · exact Or.inl zero
        · exact Or.inr written

theorem isIndex_completed {a : Attributes} {index : String} (long : a.index.length ≤ index.length)
    (name : String) :
    Lookup.isIndex (name ++ " " ++ index) a = false := by
  have longer := Text.length_lt_dropZeros name index
  rw [← Bool.not_eq_true, Lookup.isIndex_iff]
  rintro (same | ⟨zeros, -⟩)
  · rw [same] at longer
    omega
  · rw [Text.isZeros_iff.1 zeros] at longer
    exact absurd longer (Nat.not_lt_zero _)

/-- How an interface `x` with those in `before` in front of it is found by the name of its item. -/
inductive Recalled (rules : List DiscoveryRule) (interfaces before : Section) (x : Interface) : Prop
  | index (named : (draftOf rules interfaces x).parameters.naming = some .index)
      (kept : ¬(draftOf rules interfaces x).Completed (allNames rules interfaces))
      (retold : Retold (widthFor (settingsFor rules x.attributes)
        (indexWidth? (interfaces.map (·.attributes)))) x.attributes.index)
      (alone : Text.isZeros (draftOf rules interfaces x).name = true →
        ∀ y ∈ before, (Text.readSigned? y.attributes.index).getD 0 ≠ 0)
  | field (source : NameSource) (other : source ≠ .index)
      (named : (draftOf rules interfaces x).parameters.naming = some source)
      (kept : ¬(draftOf rules interfaces x).Completed (allNames rules interfaces))
      (alone : ∀ y ∈ before, y.attributes.field source ≠ x.attributes.field source)
  | completed (source : NameSource) (other : source ≠ .index)
      (named : (draftOf rules interfaces x).parameters.naming = some source)
      (completed : (draftOf rules interfaces x).Completed (allNames rules interfaces))
      (shown : shownIndex x.attributes.index = x.attributes.index)
      (simple : ∀ y ∈ interfaces,
        y.attributes.field source ≠ x.attributes.field source ++ " " ++ x.attributes.index)
      (alone : ∀ y ∈ before, y.attributes.field source ++ " " ++ y.attributes.index ≠
        x.attributes.field source ++ " " ++ x.attributes.index)

section Find
variable {before after : Section} {x : Interface}

theorem first?_index_iff (new : x ∉ before) (item : String) :
    Lookup.first? item (some .index) Interface.attributes (before ++ x :: after) = some x ↔
      Lookup.isIndex item x.attributes = true ∧ ∀ y ∈ before,
        ¬Lookup.isIndex item y.attributes = true := by
  simp only [Lookup.first?_eq_some_split new, Lookup.isSimple_index, Lookup.isCompound_index]
  simp

theorem first?_field_iff (new : x ∉ before) {source : NameSource} (other : source ≠ .index) :
    Lookup.first? (x.attributes.field source) (some source) Interface.attributes
      (before ++ x :: after) = some x ↔
      ∀ y ∈ before, y.attributes.field source ≠ x.attributes.field source := by
  simp only [Lookup.first?_eq_some_split new, Lookup.isSimple_field other]
  constructor
  · rintro (⟨-, alone⟩ | ⟨nothing, -⟩)
    · exact fun y hy same => alone y hy same.symm
    · exact absurd rfl (nothing x (List.mem_append_right _ List.mem_cons_self))
  · intro alone
    exact Or.inl ⟨trivial, fun y hy same => alone y hy same.symm⟩

theorem first?_completed_iff (new : x ∉ before) {source : NameSource}
    (other : source ≠ .index) :
    Lookup.first? (x.attributes.field source ++ " " ++ shownIndex x.attributes.index) (some source)
        Interface.attributes (before ++ x :: after) = some x ↔
      shownIndex x.attributes.index = x.attributes.index ∧
        (∀ y ∈ before ++ x :: after,
          y.attributes.field source ≠ x.attributes.field source ++ " " ++ x.attributes.index) ∧
        ∀ y ∈ before, y.attributes.field source ++ " " ++ y.attributes.index ≠
          x.attributes.field source ++ " " ++ x.attributes.index := by
  simp only [Lookup.first?_eq_some_split new, Lookup.isSimple_field other,
    Lookup.isCompound_field other, String.append_right_inj]
  constructor
  · rintro (⟨same, -⟩ | ⟨nothing, shown, alone⟩)
    · exact absurd same (append_index_ne _ _)
    · rw [shown] at nothing alone
      exact ⟨shown, fun y hy same => nothing y hy same.symm, fun y hy same =>
        alone y hy same.symm⟩
  · rintro ⟨shown, nothing, alone⟩
    rw [shown]
    exact Or.inr ⟨fun y hy same => nothing y hy same.symm, rfl, fun y hy same =>
      alone y hy same.symm⟩

end Find

section Kinds
variable {rules : List DiscoveryRule} {interfaces before after : Section} {x : Interface}

theorem itemName_cases (a : Attributes) (source : NameSource) (width : Option Nat) :
    a.itemName source width = ⟨.index, indexText a.index width⟩ ∨
      ∃ other, other ≠ .index ∧ a.itemName source width = ⟨other, a.field other⟩ := by
  cases source with
  | index => exact Or.inl rfl
  | descr =>
    rw [Attributes.itemName]
    split
    · exact Or.inl rfl
    · exact Or.inr ⟨.descr, by decide, rfl⟩
  | aliasName =>
    rw [Attributes.itemName]
    split
    · exact Or.inl rfl
    · exact Or.inr ⟨.aliasName, by decide, rfl⟩

theorem draftOf_cases (rules : List DiscoveryRule) (interfaces : Section) (x : Interface) :
    ((draftOf rules interfaces x).parameters.naming = some .index ∧
      (draftOf rules interfaces x).name = indexText x.attributes.index
        (widthFor (settingsFor rules x.attributes)
          (indexWidth? (interfaces.map (·.attributes))))) ∨
    ∃ source, source ≠ .index ∧
      (draftOf rules interfaces x).parameters.naming = some source ∧
      (draftOf rules interfaces x).name = x.attributes.field source := by
  rcases itemName_cases x.attributes (settingsFor rules x.attributes).naming
    (widthFor (settingsFor rules x.attributes) (indexWidth? (interfaces.map (·.attributes)))) with
    named | ⟨source, other, named⟩
  · refine Or.inl ⟨?_, congrArg (fun name : ItemName => name.text) named⟩
    exact congrArg (fun name : ItemName => some name.source) named
  · refine Or.inr ⟨source, other, ?_, congrArg (fun name : ItemName => name.text) named⟩
    exact congrArg (fun name : ItemName => some name.source) named

theorem readWord?_of_completed_index
    (text : (draftOf rules interfaces x).name = indexText x.attributes.index
      (widthFor (settingsFor rules x.attributes) (indexWidth? (interfaces.map (·.attributes)))))
    (completed : (draftOf rules interfaces x).Completed (allNames rules interfaces)) :
    Text.readWord? x.attributes.index = none := by
  cases number : Text.readWord? x.attributes.index with
  | none => rfl
  | some n =>
    have told : sameNumber (draftOf rules interfaces x).name x.attributes.index = false :=
      completed.2
    have read : Text.readWord? (draftOf rules interfaces x).name = some n := by
      rw [text]
      cases
        widthFor (settingsFor rules x.attributes) (indexWidth? (interfaces.map (·.attributes))) with
      | none => exact number
      | some width =>
        simp only [indexText, number]
        exact Text.readWord?_padded width (Text.readWord?_lt number)
    rw [sameNumber_iff.2 ⟨n, read, number⟩] at told
    cases told

theorem recalled_index_iff (named : (draftOf rules interfaces x).parameters.naming = some .index) :
    Recalled rules interfaces before x ↔
      ¬(draftOf rules interfaces x).Completed (allNames rules interfaces) ∧
      Retold (widthFor (settingsFor rules x.attributes)
        (indexWidth? (interfaces.map (·.attributes))))
        x.attributes.index ∧
      (Text.isZeros (draftOf rules interfaces x).name = true →
        ∀ y ∈ before, (Text.readSigned? y.attributes.index).getD 0 ≠ 0) := by
  constructor
  · intro recalled
    cases recalled with
    | index _ kept retold alone => exact ⟨kept, retold, alone⟩
    | field source other byField => exact absurd (Option.some.inj (byField.symm.trans named)) other
    | completed source other byField =>
      exact absurd (Option.some.inj (byField.symm.trans named)) other
  · rintro ⟨kept, retold, alone⟩
    exact Recalled.index named kept retold alone

theorem recalled_field_iff {source : NameSource} (other : source ≠ .index)
    (named : (draftOf rules interfaces x).parameters.naming = some source)
    (kept : ¬(draftOf rules interfaces x).Completed (allNames rules interfaces)) :
    Recalled rules interfaces before x ↔
      ∀ y ∈ before, y.attributes.field source ≠ x.attributes.field source := by
  constructor
  · intro recalled
    cases recalled with
    | index byIndex => exact absurd (Option.some.inj (named.symm.trans byIndex)) other
    | field source' _ named' _ alone =>
      obtain rfl := Option.some.inj (named'.symm.trans named)
      exact alone
    | completed _ _ _ completed => exact absurd completed kept
  · exact Recalled.field source other named kept

theorem recalled_completed_iff {source : NameSource} (other : source ≠ .index)
    (named : (draftOf rules interfaces x).parameters.naming = some source)
    (completed : (draftOf rules interfaces x).Completed (allNames rules interfaces)) :
    Recalled rules interfaces before x ↔
      shownIndex x.attributes.index = x.attributes.index ∧
        (∀ y ∈ interfaces,
          y.attributes.field source ≠ x.attributes.field source ++ " " ++ x.attributes.index) ∧
        ∀ y ∈ before, y.attributes.field source ++ " " ++ y.attributes.index ≠
          x.attributes.field source ++ " " ++ x.attributes.index := by
  constructor
  · intro recalled
    cases recalled with
    | index byIndex => exact absurd (Option.some.inj (named.symm.trans byIndex)) other
    | field _ _ _ kept => exact absurd completed kept
    | completed source' _ named' _ shown simple alone =>
      obtain rfl := Option.some.inj (named'.symm.trans named)
      exact ⟨shown, simple, alone⟩
  · rintro ⟨shown, simple, alone⟩
    exact Recalled.completed source other named completed shown simple alone

theorem first?_serviceOf_of_index (cut : interfaces = before ++ x :: after)
    (apart : ∀ y ∈ before, y.attributes.index ≠ x.attributes.index)
    (named : (draftOf rules interfaces x).parameters.naming = some .index)
    (text : (draftOf rules interfaces x).name = indexText x.attributes.index
      (widthFor (settingsFor rules x.attributes) (indexWidth? (interfaces.map (·.attributes))))) :
    Lookup.first? (serviceOf rules interfaces x).name (some .index) Interface.attributes
        interfaces = some x ↔
      Recalled rules interfaces before x := by
  have meant (item : String) :
      Lookup.first? item (some .index) Interface.attributes interfaces = some x ↔
        Lookup.isIndex item x.attributes = true ∧
          ∀ y ∈ before, ¬Lookup.isIndex item y.attributes = true := by
    rw [cut]
    exact first?_index_iff (fun member => apart x member rfl) item
  rw [recalled_index_iff named, meant]
  by_cases completed : (draftOf rules interfaces x).Completed (allNames rules interfaces)
  · have number := readWord?_of_completed_index text completed
    have shown : shownIndex x.attributes.index = x.attributes.index := by
      simp only [shownIndex, number]
    have final : (serviceOf rules interfaces x).name =
        (draftOf rules interfaces x).name ++ " " ++ x.attributes.index :=
      (DraftItem.toService_name_of_completed completed).trans (congrArg _ shown)
    rw [final, isIndex_completed (Nat.le_refl _)]
    exact ⟨fun found => absurd found.1 Bool.false_ne_true, fun recalled =>
      absurd completed recalled.1⟩
  · have final : (serviceOf rules interfaces x).name = (draftOf rules interfaces x).name :=
      DraftItem.toService_name_of_not_completed completed
    rw [final, text, isIndex_indexText]
    constructor
    · rintro ⟨retold, alone⟩
      have found := (isIndex_indexText _ _).2 retold
      exact ⟨completed, retold, fun zeros y hy zero =>
        alone y hy ((Lookup.isIndex_other found (apart y hy)).2 ⟨zeros, zero⟩)⟩
    · rintro ⟨-, retold, alone⟩
      have found := (isIndex_indexText _ _).2 retold
      refine ⟨retold, fun y hy other => ?_⟩
      obtain ⟨zeros, zero⟩ := (Lookup.isIndex_other found (apart y hy)).1 other
      exact alone zeros y hy zero

theorem first?_serviceOf_of_field (cut : interfaces = before ++ x :: after) (new : x ∉ before)
    {source : NameSource} (other : source ≠ .index)
    (named : (draftOf rules interfaces x).parameters.naming = some source)
    (text : (draftOf rules interfaces x).name = x.attributes.field source) :
    Lookup.first? (serviceOf rules interfaces x).name
      (some source) Interface.attributes interfaces = some x ↔
      Recalled rules interfaces before x := by
  by_cases completed : (draftOf rules interfaces x).Completed (allNames rules interfaces)
  · have final : (serviceOf rules interfaces x).name =
        x.attributes.field source ++ " " ++ shownIndex x.attributes.index :=
      (DraftItem.toService_name_of_completed completed).trans (by rw [text]; rfl)
    rw [recalled_completed_iff other named completed, final, cut]
    exact first?_completed_iff new other
  · have final : (serviceOf rules interfaces x).name = x.attributes.field source :=
      (DraftItem.toService_name_of_not_completed completed).trans text
    rw [recalled_field_iff other named completed, final, cut]
    exact first?_field_iff new other

end Kinds

theorem first?_serviceOf_iff (rules : List DiscoveryRule) {interfaces before after : Section}
    {x : Interface} (cut : interfaces = before ++ x :: after)
    (apart : ∀ y ∈ before, y.attributes.index ≠ x.attributes.index) :
    Lookup.first? (serviceOf rules interfaces x).name
      (serviceOf rules interfaces x).parameters.naming
        Interface.attributes interfaces = some x ↔ Recalled rules interfaces before x := by
  have parameters : (serviceOf rules interfaces x).parameters.naming =
      (draftOf rules interfaces x).parameters.naming := rfl
  rw [parameters]
  rcases draftOf_cases rules interfaces x with ⟨named, text⟩ | ⟨source, other, named, text⟩
  · rw [named]
    exact first?_serviceOf_of_index cut apart named text
  · rw [named]
    exact first?_serviceOf_of_field cut (fun member => apart x member rfl) other named text

/-- On the section of a single host with pairwise different indices, the single items are those of
the enabled interfaces, and the name of each finds exactly its interface if that one is recalled. -/
theorem single_services_recalled_iff (rules : List DiscoveryRule) {interfaces : Section}
    (plain : interfaces.Plain)
    (distinct : interfaces.Pairwise (·.attributes.index ≠ ·.attributes.index)) :
    (findServices rules interfaces).filter (·.parameters.group.isNone) =
      (interfaces.filter fun i => (settingsFor rules i.attributes).enabled).map
        (serviceOf rules interfaces) ∧
    ∀ before x after, interfaces = before ++ x :: after →
      (interfaces.meantBy (serviceOf rules interfaces x).name
        (serviceOf rules interfaces x).parameters.naming = [x] ↔
        Recalled rules interfaces before x) := by
  refine ⟨single_services distinct rules, fun before x after cut => ?_⟩
  have apart : ∀ y ∈ before, y.attributes.index ≠ x.attributes.index := by
    have parts := cut ▸ distinct
    exact fun y hy => (List.pairwise_append.1 parts).2.2 y hy x List.mem_cons_self
  have one {found : Option Interface} : found.toList = [x] ↔ found = some x := by
    cases found <;> simp
  rw [Section.meantBy_of_plain plain, one]
  exact first?_serviceOf_iff rules cut apart

theorem recalled_by_completed_names :
    (findServices [allNamed .descr] [upPort "1" "eth" none, upPort "2" "eth" none]).map (·.name) =
      ["eth 1", "eth 2"] ∧
      Section.meantBy [upPort "1" "eth" none, upPort "2" "eth" none] "eth 2" (some .descr) =
        [upPort "2" "eth" none] := by
  have plain : Section.Plain [upPort "1" "eth" none, upPort "2" "eth" none] := by
    intro i hi
    cases hi
    rfl
  have distinct : [upPort "1" "eth" none, upPort "2" "eth" none].Pairwise
      (·.attributes.index ≠ ·.attributes.index) := by decide
  have found := (single_services_recalled_iff [allNamed .descr] plain distinct).2
    [upPort "1" "eth" none] (upPort "2" "eth" none) [] rfl
  refine ⟨rfl, found.2
    (Recalled.completed .descr (by decide) rfl ⟨by decide, rfl⟩ rfl ?_ ?_)⟩
  · decide
  · decide

theorem lost_by_completed_index :
    ∃ s ∈ findServices [allNamed .index] [upPort "eth0" "eth0" none],
      s.name = "eth0 eth0" ∧ s.parameters.naming = some .index ∧ s.parameters.group = none ∧
      Section.meantBy [upPort "eth0" "eth0" none] s.name s.parameters.naming = [] :=
  ⟨_, List.mem_cons_self, rfl, rfl, rfl, rfl⟩

end Discovery

end IfaceMonitor
