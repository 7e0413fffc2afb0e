import IfaceMonitor.Discovery.Search
import IfaceMonitor.Proofs.Text.Numeral
import Mathlib.Data.List.Flatten
import Mathlib.Data.List.Nodup

namespace IfaceMonitor

namespace Discovery

def allNames (rules : List DiscoveryRule) (interfaces : Section) : List String :=
  let attributes := interfaces.map (·.attributes)
  attributes.flatMap (appearances rules (indexWidth? attributes))

def singleDrafts (rules : List DiscoveryRule) (interfaces : Section) : List DraftItem :=
  let attributes := interfaces.map (·.attributes)
  singles rules (indexWidth? attributes) [] attributes

def groupDrafts (rules : List DiscoveryRule) (interfaces : Section) : List DraftItem :=
  (declaredGroups rules (interfaces.map (·.attributes))).filterMap (groupDraft? interfaces)

def drafts (rules : List DiscoveryRule) (interfaces : Section) : List DraftItem :=
  singleDrafts rules interfaces ++ groupDrafts rules interfaces

theorem groupDraft?_nil (g : GroupDecl) : groupDraft? [] g = none := rfl

theorem findServices_eq_map (rules : List DiscoveryRule) (interfaces : Section) :
    findServices rules interfaces =
      (drafts rules interfaces).map (·.toService (allNames rules interfaces)) := by
  cases interfaces with
  | nil =>
    have groups : groupDrafts rules [] = [] := by
      rw [groupDrafts, List.filterMap_eq_nil_iff]
      intro g _
      exact groupDraft?_nil g
    rw [drafts, groups]
    rfl
  | cons i rest => rfl

theorem filter_findServices (rules : List DiscoveryRule) (interfaces : Section)
    (p : Discovered → Bool) :
    (findServices rules interfaces).filter (fun s => p s.parameters) =
      ((drafts rules interfaces).filter fun d => p d.parameters).map
        (·.toService (allNames rules interfaces)) := by
  rw [findServices_eq_map, List.filter_map]
  rfl

theorem append_index_ne (name index : String) : name ++ " " ++ index ≠ name := by
  intro equal
  have lengths := congrArg String.length equal
  rw [String.length_append, String.length_append] at lengths
  have space : " ".length = 1 := rfl
  omega

namespace DraftItem

/-- The name is one of several equal ones, and no number that tells the index already. -/
def Completed (names : List String) (d : DraftItem) : Prop :=
  1 < names.count d.name ∧ d.isIndex = false

theorem toService_name_of_completed {names : List String} {d : DraftItem} (h : d.Completed names) :
    (d.toService names).name = d.name ++ " " ++ shownIndex d.index := by
  simp [toService, h.1, h.2]

theorem toService_name_of_not_completed {names : List String} {d : DraftItem}
    (h : ¬d.Completed names) :
    (d.toService names).name = d.name := by
  have kept : ¬((decide (1 < names.count d.name) && !d.isIndex) = true) := by
    simpa [Completed] using h
  exact if_neg kept

end DraftItem

theorem sameNumber_iff {a b : String} :
    sameNumber a b = true ↔ ∃ n, Text.readWord? a = some n ∧ Text.readWord? b = some n := by
  rw [sameNumber]
  cases ha : Text.readWord? a with
  | none => simp
  | some m =>
    cases hb : Text.readWord? b with
    | none => simp
    | some n =>
      simp only [beq_iff_eq, Option.some.injEq]
      constructor
      · rintro rfl
        exact ⟨m, rfl, rfl⟩
      · rintro ⟨k, rfl, rfl⟩
        rfl

theorem readWord?_shownIndex (index : String) :
    Text.readWord? (shownIndex index) = Text.readWord? index := by
  rw [shownIndex]
  split
  · next n number => rw [Text.readWord?_toString (Text.readWord?_lt number), number]
  · rfl

theorem shownIndex_eq_iff {a b : String} :
    shownIndex a = shownIndex b ↔ a = b ∨ sameNumber a b = true := by
  constructor
  · intro same
    have numbers := congrArg Text.readWord? same
    rw [readWord?_shownIndex, readWord?_shownIndex] at numbers
    cases ha : Text.readWord? a with
    | some n => exact Or.inr (sameNumber_iff.2 ⟨n, ha, numbers.symm.trans ha⟩)
    | none =>
      have hb := numbers.symm.trans ha
      simp only [shownIndex, ha, hb] at same
      exact Or.inl same
  · rintro (rfl | same)
    · rfl
    · obtain ⟨n, ha, hb⟩ := sameNumber_iff.1 same
      simp only [shownIndex, ha, hb]

theorem name_mem_appearances (rules : List DiscoveryRule) (width : Option Nat) (a : Attributes) :
    (singleDraft (settingsFor rules a) width a).name ∈ appearances rules width a := by
  have named : ∀ source ∈ sourcesOf a,
      (a.itemName source (widthFor (settingsFor rules a) width)).text ∈
        appearances rules width a := fun source h => List.mem_map.2 ⟨source, h, rfl⟩
  show (a.itemName (settingsFor rules a).naming (widthFor (settingsFor rules a) width)).text ∈ _
  rcases (settingsFor rules a).naming
  case index => exact named .index (by rw [sourcesOf]; split <;> simp)
  case descr => exact named .descr (by rw [sourcesOf]; split <;> simp)
  case aliasName =>
    by_cases repeated : a.descr = a.aliasName
    -- The alias is not counted then, but its text is, as the description.
    · have same : (a.itemName .aliasName (widthFor (settingsFor rules a) width)).text =
          (a.itemName .descr (widthFor (settingsFor rules a) width)).text := by
        simp only [Attributes.itemName, repeated]
        split <;> rfl
      rw [same]
      exact named .descr (by rw [sourcesOf]; split <;> simp)
    · exact named .aliasName (by rw [sourcesOf, if_neg repeated]; simp)

theorem singles_eq_map (rules : List DiscoveryRule) (width : Option Nat) (seen : List String)
    (as : List Attributes) :
    ∃ sources : List Attributes, sources.Sublist as ∧
      (∀ a ∈ sources, (settingsFor rules a).enabled = true ∧ a.index ∉ seen) ∧
      sources.Pairwise (·.index ≠ ·.index) ∧
      singles rules width seen as = sources.map fun a =>
        singleDraft (settingsFor rules a) width a := by
  induction as generalizing seen with
  | nil => exact ⟨[], List.Sublist.refl _, by simp, List.Pairwise.nil, rfl⟩
  | cons a rest ih =>
    rw [singles]
    by_cases kept : ((settingsFor rules a).enabled && !seen.contains a.index) = true
    · obtain ⟨sources, sub, from_, apart, eq⟩ := ih (a.index :: seen)
      refine ⟨a :: sources, sub.cons_cons a, ?_, ?_, by rw [if_pos kept, eq]; rfl⟩
      · intro b hb
        rcases List.mem_cons.1 hb with rfl | hb
        · simpa using kept
        · exact ⟨(from_ b hb).1, fun met => (from_ b hb).2 (List.mem_cons_of_mem _ met)⟩
      · rw [List.pairwise_cons]
        refine ⟨fun b hb same => (from_ b hb).2 ?_, apart⟩
        rw [← same]
        exact List.mem_cons_self
    · obtain ⟨sources, sub, from_, apart, eq⟩ := ih seen
      exact ⟨sources, sub.cons a, from_, apart, by rw [if_neg kept, eq]⟩

theorem count_of_two {rules : List DiscoveryRule} {width : Option Nat} {as : List Attributes}
    {a b : Attributes} (two : [a, b].Sublist as) {name : String}
    (ha : name ∈ appearances rules width a) (hb : name ∈ appearances rules width b) :
    1 < (as.flatMap (appearances rules width)).count name := by
  have counts := (two.flatMap (appearances rules width)).count_le name
  rw [List.flatMap_cons, List.flatMap_cons, List.flatMap_nil, List.append_nil,
    List.count_append] at counts
  have first := List.count_pos_iff.2 ha
  have second := List.count_pos_iff.2 hb
  omega

theorem singleDrafts_pairwise (rules : List DiscoveryRule) (interfaces : Section) :
    (singleDrafts rules interfaces).Pairwise fun d e =>
      d.index ≠ e.index ∧
        (d.name = e.name → 1 < (allNames rules interfaces).count d.name) := by
  obtain ⟨sources, sub, -, apart, eq⟩ :=
    singles_eq_map rules (indexWidth? (interfaces.map (·.attributes))) []
      (interfaces.map (·.attributes))
  rw [singleDrafts, eq, List.pairwise_map, List.pairwise_iff_forall_sublist]
  intro a b two
  refine ⟨List.pairwise_iff_forall_sublist.1 apart two, fun same => ?_⟩
  refine count_of_two (two.trans sub) (name_mem_appearances rules _ a) ?_
  rw [same]
  exact name_mem_appearances rules _ b

theorem mem_singleDrafts {rules : List DiscoveryRule} {interfaces : Section} {d : DraftItem}
    (h : d ∈ singleDrafts rules interfaces) :
    ∃ a,
      d = singleDraft (settingsFor rules a) (indexWidth? (interfaces.map (·.attributes))) a := by
  obtain ⟨sources, -, -, -, eq⟩ :=
    singles_eq_map rules (indexWidth? (interfaces.map (·.attributes))) []
      (interfaces.map (·.attributes))
  rw [singleDrafts, eq, List.mem_map] at h
  obtain ⟨a, -, same⟩ := h
  exact ⟨a, same.symm⟩

theorem ungrouped_of_mem_singleDrafts {rules : List DiscoveryRule} {interfaces : Section}
    {d : DraftItem} (h : d ∈ singleDrafts rules interfaces) : d.parameters.group = none := by
  obtain ⟨a, rfl⟩ := mem_singleDrafts h
  rfl

end Discovery

namespace GroupDecls

theorem map_name_put (decl : GroupDecl) (decls : GroupDecls) :
    (decls.put decl).map (·.name) =
      if decl.name ∈ decls.map (·.name) then decls.map (·.name)
      else decls.map (·.name) ++ [decl.name] := by
  induction decls with
  | nil => rfl
  | cons other rest ih =>
    rw [put]
    by_cases same : other.name = decl.name
    · simp [same]
    · rw [if_neg same, List.map_cons, ih]
      have different : decl.name ≠ other.name := fun h => same h.symm
      by_cases met : decl.name ∈ rest.map (·.name)
      · simp [met]
      · simp [met, different]

theorem nodup_put {decls : GroupDecls} (nodup : (decls.map (·.name)).Nodup) (decl : GroupDecl) :
    ((decls.put decl).map (·.name)).Nodup := by
  rw [map_name_put]
  split
  · exact nodup
  · next new =>
    rw [← List.concat_eq_append]
    exact nodup.concat new

theorem nodup_putAll {decls : GroupDecls} (nodup : (decls.map (·.name)).Nodup)
    (others : GroupDecls) :
    ((decls.putAll others).map (·.name)).Nodup := by
  refine List.foldlRecOn (motive := fun decls : GroupDecls => (decls.map (·.name)).Nodup)
    others _ nodup ?_
  exact fun _ nodup decl _ => nodup_put nodup decl

theorem nodup_putNew {decls : GroupDecls} (nodup : (decls.map (·.name)).Nodup) (decl : GroupDecl) :
    ((decls.putNew decl).map (·.name)).Nodup := by
  rw [putNew]
  split
  · exact nodup
  · next new =>
    rw [List.map_append, List.map_singleton, ← List.concat_eq_append]
    refine nodup.concat fun met => new ?_
    obtain ⟨other, member, same⟩ := List.mem_map.1 met
    exact List.any_eq_true.2 ⟨other, member, beq_iff_eq.2 same⟩

end GroupDecls

namespace Discovery

theorem declaredGroups_nodup (rules : List DiscoveryRule) (attributes : List Attributes) :
    ((declaredGroups rules attributes).map (·.name)).Nodup := by
  refine GroupDecls.nodup_putAll ?_ _
  have start : (([] : GroupDecls).map (·.name)).Nodup := List.nodup_nil
  refine List.foldlRecOn (motive := fun decls : GroupDecls =>
    (decls.map (·.name)).Nodup) _ _ start ?_
  exact fun _ nodup decl _ => GroupDecls.nodup_putNew nodup decl

def groupParameters (config : GroupConfig) (members : List Interface) : Discovered where
  naming := none
  operStates := some [Group.operStatus (members.map (·.attributes))]
  speed := some (Group.speed (members.map (·.attributes)))
  adminStates := none
  group := some config

theorem groupDraft?_eq_some {interfaces : Section} {g : GroupDecl} {d : DraftItem}
    (h : groupDraft? interfaces g = some d) :
    g.config.membersIn g.name interfaces ≠ [] ∧ d.name = g.name ∧ d.index = "1" ∧
      d.isIndex = false ∧
      d.parameters = groupParameters g.config (g.config.membersIn g.name interfaces) := by
  rw [groupDraft?] at h
  split at h
  · cases h
  · next filled =>
    cases h
    exact ⟨by simpa using filled, rfl, rfl, rfl, rfl⟩

theorem mem_groupDrafts {rules : List DiscoveryRule} {interfaces : Section} {d : DraftItem} :
    d ∈ groupDrafts rules interfaces ↔
      ∃ g ∈ declaredGroups rules (interfaces.map (·.attributes)),
        groupDraft? interfaces g = some d :=
  List.mem_filterMap

theorem grouped_of_mem_groupDrafts {rules : List DiscoveryRule} {interfaces : Section}
    {d : DraftItem} (h : d ∈ groupDrafts rules interfaces) :
    d.parameters.group.isSome = true := by
  obtain ⟨g, -, draft⟩ := mem_groupDrafts.1 h
  obtain ⟨-, -, -, -, parameters⟩ := groupDraft?_eq_some draft
  rw [parameters]
  rfl

theorem groupDrafts_pairwise (rules : List DiscoveryRule) (interfaces : Section) :
    (groupDrafts rules interfaces).Pairwise (·.name ≠ ·.name) := by
  have names := declaredGroups_nodup rules (interfaces.map (·.attributes))
  rw [List.nodup_iff_pairwise_ne, List.pairwise_map] at names
  refine List.pairwise_filterMap.2 (names.imp fun {g h} apart d hd e he same => apart ?_)
  obtain ⟨-, nameOfD, -⟩ := groupDraft?_eq_some hd
  obtain ⟨-, nameOfE, -⟩ := groupDraft?_eq_some he
  rw [← nameOfD, ← nameOfE, same]

theorem isIndex_of_mem_drafts {rules : List DiscoveryRule} {interfaces : Section} {d : DraftItem}
    (h : d ∈ drafts rules interfaces) (isIndex : d.isIndex = true) :
    sameNumber d.name d.index = true := by
  rcases List.mem_append.1 h with single | grouped
  · obtain ⟨a, rfl⟩ := mem_singleDrafts single
    exact isIndex
  · obtain ⟨g, -, draft⟩ := mem_groupDrafts.1 grouped
    obtain ⟨-, -, -, noIndex, -⟩ := groupDraft?_eq_some draft
    rw [noIndex] at isIndex
    cases isIndex

def allNamed (naming : NameSource) : DiscoveryRule where
  criteria := .unrestricted
  single := some { enabled := true, naming := naming, padded := true, labels := .empty }
  grouping := none

def upPort (index descr : String) (group : Option String) : Interface where
  attributes :=
    { index := index, descr := descr, aliasName := "port " ++ index, typeCode := "6",
      speed := 1000.0, operStatus := .up, adminStatus := none, address := .empty, outQueue := none,
      speedText := "", group := group, node := none, extraInfo := none }
  traffic := .counters .missing

end Discovery

end IfaceMonitor
