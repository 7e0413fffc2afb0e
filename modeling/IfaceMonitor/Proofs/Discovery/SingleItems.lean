import IfaceMonitor.Proofs.Discovery.Nodes
import IfaceMonitor.Proofs.Discovery.Recall

namespace IfaceMonitor

namespace Discovery

inductive Governs (rules : List DiscoveryRule) (a : Attributes) (s : SingleSettings) : Prop
  | first {above below : List DiscoveryRule} {r : DiscoveryRule} (cut : rules = above ++ r :: below)
      (own : r.single = some s) (meets : r.criteria.accepts a = true)
      (skipped : ∀ other ∈ above, other.single.isSome = true →
        other.criteria.accepts a = false)

def Enabled (rules : List DiscoveryRule) (a : Attributes) : Prop :=
  ∃ s, Governs rules a s ∧ s.enabled = true

section Settings
variable {rules : List DiscoveryRule} {a : Attributes} {s : SingleSettings}

def settings? (a : Attributes) (r : DiscoveryRule) : Option SingleSettings :=
  r.single.filter fun _ => r.criteria.accepts a

theorem settings?_eq_some {r : DiscoveryRule} :
    settings? a r = some s ↔ r.single = some s ∧ r.criteria.accepts a = true :=
  Option.filter_eq_some_iff

theorem settings?_eq_none {r : DiscoveryRule} :
    settings? a r = none ↔ (r.single.isSome = true → r.criteria.accepts a = false) := by
  cases single : r.single <;> simp [settings?, single, Option.filter]

theorem governs_iff : Governs rules a s ↔ rules.findSome? (settings? a) = some s := by
  rw [List.findSome?_eq_some_iff]
  constructor
  · rintro ⟨cut, own, meets, skipped⟩
    exact ⟨_, _, _, cut, settings?_eq_some.2 ⟨own, meets⟩, fun other member =>
      settings?_eq_none.2 (skipped other member)⟩
  · rintro ⟨above, r, below, cut, found, skipped⟩
    obtain ⟨own, meets⟩ := settings?_eq_some.1 found
    exact .first cut own meets fun other member => settings?_eq_none.1 (skipped other member)

theorem Governs.settingsFor_eq (governs : Governs rules a s) : settingsFor rules a = s := by
  rw [settingsFor]
  exact congrArg (·.getD .disabled) (governs_iff.1 governs)

theorem governs_of_enabled (enabled : (settingsFor rules a).enabled = true) :
    Governs rules a (settingsFor rules a) := by
  have from_ : settingsFor rules a = (rules.findSome? (settings? a)).getD .disabled := rfl
  rw [governs_iff]
  cases found : rules.findSome? (settings? a) with
  | some s => rw [from_, found, Option.getD_some]
  | none =>
    rw [from_, found] at enabled
    cases enabled

theorem enabled_iff : Enabled rules a ↔ (settingsFor rules a).enabled = true := by
  constructor
  · rintro ⟨s, governs, enabled⟩
    rwa [governs.settingsFor_eq]
  · intro enabled
    exact ⟨_, governs_of_enabled enabled, enabled⟩

end Settings

/-- The interface at the position is enabled, its index is not in `seen`, and no enabled one before
it has its index. -/
def NewAt (rules : List DiscoveryRule) (seen : List String) (as : List Attributes) (k : Nat) :
    Prop :=
  ∃ a, as[k]? = some a ∧ Enabled rules a ∧ a.index ∉ seen ∧
    ∀ j < k, ∀ b, as[j]? = some b → Enabled rules b → b.index ≠ a.index

section Positions
variable {rules : List DiscoveryRule} {seen : List String} {a : Attributes} {as : List Attributes}
  {k : Nat}

theorem newAt_nil : ¬NewAt rules seen [] k := by
  rintro ⟨a, here, -⟩
  simp at here

theorem newAt_zero : NewAt rules seen (a :: as) 0 ↔ Enabled rules a ∧ a.index ∉ seen := by
  constructor
  · rintro ⟨b, here, enabled, new, -⟩
    cases here
    exact ⟨enabled, new⟩
  · rintro ⟨enabled, new⟩
    exact ⟨a, rfl, enabled, new, fun j before => absurd before (Nat.not_lt_zero j)⟩

theorem newAt_succ_of_new (enabled : Enabled rules a) :
    NewAt rules seen (a :: as) (k + 1) ↔ NewAt rules (a.index :: seen) as k := by
  constructor
  · rintro ⟨b, here, own, new, alone⟩
    refine ⟨b, here, own, ?_, fun j before => alone (j + 1) (Nat.succ_lt_succ before)⟩
    rw [List.mem_cons, not_or]
    exact ⟨fun same => alone 0 (Nat.succ_pos k) a rfl enabled same.symm, new⟩
  · rintro ⟨b, here, own, new, alone⟩
    obtain ⟨different, new⟩ := not_or.1 (mt List.mem_cons.2 new)
    refine ⟨b, here, own, new, fun j before c there other => ?_⟩
    cases j with
    | zero =>
      cases there
      exact fun same => different same.symm
    | succ j => exact alone j (Nat.lt_of_succ_lt_succ before) c there other

theorem newAt_succ_of_old (old : Enabled rules a → a.index ∈ seen) :
    NewAt rules seen (a :: as) (k + 1) ↔ NewAt rules seen as k := by
  constructor
  · rintro ⟨b, here, own, new, alone⟩
    exact ⟨b, here, own, new, fun j before => alone (j + 1) (Nat.succ_lt_succ before)⟩
  · rintro ⟨b, here, own, new, alone⟩
    refine ⟨b, here, own, new, fun j before c there other => ?_⟩
    cases j with
    | zero =>
      cases there
      exact fun same => new (same ▸ old other)
    | succ j => exact alone j (Nat.lt_of_succ_lt_succ before) c there other

end Positions

def DraftAt (rules : List DiscoveryRule) (width : Option Nat) (as : List Attributes) (k : Nat)
    (d : DraftItem) : Prop :=
  ∃ a, as[k]? = some a ∧ Enabled rules a ∧ d = singleDraft (settingsFor rules a) width a

theorem forall₂_draftAt_cons {rules : List DiscoveryRule} {width : Option Nat}
    {as : List Attributes} {positions : List Nat} {ds : List DraftItem}
    (each : List.Forall₂ (DraftAt rules width as) positions ds) (a : Attributes) :
    List.Forall₂ (DraftAt rules width (a :: as)) (positions.map (· + 1)) ds :=
  List.forall₂_map_left_iff.2 each

theorem singles_positions (rules : List DiscoveryRule) (width : Option Nat) (seen : List String)
    (as : List Attributes) :
    ∃ positions : List Nat, positions.Pairwise (· < ·) ∧
      (∀ k, k ∈ positions ↔ NewAt rules seen as k) ∧
      List.Forall₂ (DraftAt rules width as) positions (singles rules width seen as) := by
  induction as generalizing seen with
  | nil =>
    exact ⟨[], List.Pairwise.nil, fun k =>
      iff_of_false List.not_mem_nil newAt_nil, List.Forall₂.nil⟩
  | cons a rest ih =>
    have shifted {positions : List Nat} (sorted : positions.Pairwise (· < ·)) :
        (positions.map (· + 1)).Pairwise (· < ·) :=
          List.pairwise_map.2 (sorted.imp Nat.succ_lt_succ)
    rw [singles]
    by_cases new : Enabled rules a ∧ a.index ∉ seen
    · obtain ⟨positions, sorted, members, each⟩ := ih (a.index :: seen)
      have kept : ((settingsFor rules a).enabled && !seen.contains a.index) = true := by
        simpa [enabled_iff] using new
      refine ⟨0 :: positions.map (· + 1), ?_, fun k => ?_, ?_⟩
      · exact List.pairwise_cons.2 ⟨by simp, shifted sorted⟩
      · cases k with
        | zero => simpa [newAt_zero] using new
        | succ k => simp [newAt_succ_of_new new.1, members]
      · rw [if_pos kept]
        exact .cons ⟨a, rfl, new.1, rfl⟩ (forall₂_draftAt_cons each a)
    · obtain ⟨positions, sorted, members, each⟩ := ih seen
      have old : Enabled rules a → a.index ∈ seen := fun enabled => not_not.1 fun unmet =>
        new ⟨enabled, unmet⟩
      have dropped : ¬((settingsFor rules a).enabled && !seen.contains a.index) = true := by
        simpa [enabled_iff] using old
      refine ⟨positions.map (· + 1), shifted sorted, fun k => ?_, ?_⟩
      · cases k with
        | zero => simpa [newAt_zero] using old
        | succ k => simp [newAt_succ_of_old old, members]
      · rw [if_neg dropped]
        exact forall₂_draftAt_cons each a

inductive NamedBy (a : Attributes) (width : Option Nat) (wanted : NameSource) :
    NameSource → String → Prop
  | index (missing : wanted = .index ∨ a.field wanted = "") :
      NamedBy a width wanted .index (indexText a.index width)
  | field (other : wanted ≠ .index) (given : a.field wanted ≠ "") :
      NamedBy a width wanted wanted (a.field wanted)

theorem namedBy_itemName (a : Attributes) (width : Option Nat) (wanted : NameSource) :
    NamedBy a width wanted (a.itemName wanted width).source (a.itemName wanted width).text := by
  cases wanted with
  | index => exact .index (Or.inl rfl)
  | descr =>
    rw [Attributes.itemName]
    split
    · next empty => exact .index (Or.inr (by simpa [Attributes.field] using empty))
    · next given => exact .field (by decide) (by simpa [Attributes.field] using given)
  | aliasName =>
    rw [Attributes.itemName]
    split
    · next empty => exact .index (Or.inr (by simpa [Attributes.field] using empty))
    · next given => exact .field (by decide) (by simpa [Attributes.field] using given)

structure SingleItem (interfaces : Section) (a : Attributes) (settings : SingleSettings)
    (s : Service) : Prop where
  named : ∃ source text, s.parameters.naming = some source ∧
    NamedBy a (widthFor settings (indexWidth? (interfaces.map (·.attributes))))
      settings.naming source text ∧
    (s.name = text ∨ s.name = text ++ " " ++ shownIndex a.index)
  operStates : s.parameters.operStates = some [a.operStatus]
  speed : s.parameters.speed = some a.speed
  adminStates : s.parameters.adminStates = a.adminStatus.map fun admin => [admin]
  ungrouped : s.parameters.group = none
  labels : s.labels = settings.labels

theorem singleItem_of_draft (names : List String) (interfaces : Section) (a : Attributes)
    (settings : SingleSettings) :
    SingleItem interfaces a settings
      ((singleDraft settings (indexWidth? (interfaces.map (·.attributes))) a).toService names) where
  named := by
    refine ⟨_, _, rfl, namedBy_itemName a _ settings.naming, ?_⟩
    by_cases completed :
        (singleDraft settings (indexWidth? (interfaces.map (·.attributes))) a).Completed names
    · exact Or.inr (DraftItem.toService_name_of_completed completed)
    · exact Or.inl (DraftItem.toService_name_of_not_completed completed)
  operStates := rfl
  speed := rfl
  adminStates := rfl
  ungrouped := rfl
  labels := rfl

/-- Single items come before groups, one for each enabled interface such that no enabled one before
it has its index, in the order of the interfaces. -/
theorem single_services_positions (rules : List DiscoveryRule) (interfaces : Section) :
    ∃ (positions : List Nat) (singles groups : List Service),
      findServices rules interfaces = singles ++ groups ∧
      (∀ s ∈ groups, s.parameters.group.isSome = true) ∧
      positions.Pairwise (· < ·) ∧
      (∀ k, k ∈ positions ↔ ∃ i, interfaces[k]? = some i ∧ Enabled rules i.attributes ∧
        ∀ j < k, ∀ other, interfaces[j]? = some other → Enabled rules other.attributes →
          other.attributes.index ≠ i.attributes.index) ∧
      List.Forall₂ (fun k s => ∃ i settings, interfaces[k]? = some i ∧
        Governs rules i.attributes settings ∧
        SingleItem interfaces i.attributes settings s) positions singles := by
  obtain ⟨positions, sorted, members, each⟩ :=
    singles_positions rules (indexWidth? (interfaces.map (·.attributes))) []
      (interfaces.map (·.attributes))
  refine ⟨positions, _, _, (findServices_eq_map rules interfaces).trans List.map_append, ?_,
    sorted, fun k => ?_, ?_⟩
  · intro s grouped
    obtain ⟨d, member, rfl⟩ := List.mem_map.1 grouped
    exact grouped_of_mem_groupDrafts member
  · rw [members, NewAt]
    simp [List.getElem?_map]
  · refine List.forall₂_map_right_iff.2 (each.imp fun k d drafted => ?_)
    obtain ⟨a, here, enabled, rfl⟩ := drafted
    rw [List.getElem?_map, Option.map_eq_some_iff] at here
    obtain ⟨i, here, rfl⟩ := here
    exact ⟨i, _, here, governs_of_enabled (enabled_iff.1 enabled),
      singleItem_of_draft _ interfaces i.attributes _⟩

section Reordered
variable {interfaces others : Section}

theorem indexWidth?_of_perm {as bs : List Attributes} (reordered : as.Perm bs) :
    indexWidth? as = indexWidth? bs := by
  rw [indexWidth?, indexWidth?, max?_eq_of_mem_iff fun n => (reordered.filterMap _).mem_iff]

theorem allNames_perm (reordered : interfaces.Perm others) (rules : List DiscoveryRule) :
    (allNames rules interfaces).Perm (allNames rules others) := by
  rw [allNames, allNames, indexWidth?_of_perm (reordered.map _)]
  exact (reordered.map _).flatMap_right _

theorem DraftItem.toService_of_perm {names : List String} {shuffled : List String}
    (reordered : names.Perm shuffled) (d : DraftItem) :
    d.toService names = d.toService shuffled := by
  rw [toService, toService, reordered.count_eq]

theorem serviceOf_of_perm (reordered : interfaces.Perm others) (rules : List DiscoveryRule) :
    serviceOf rules interfaces = serviceOf rules others := by
  funext i
  rw [serviceOf, serviceOf, draftOf, draftOf, indexWidth?_of_perm (reordered.map _),
    DraftItem.toService_of_perm (allNames_perm reordered rules)]

/-- Under pairwise different indices, an interface has the same item in every order, and the items
are ordered as their interfaces. -/
theorem single_services_of_perm (rules : List DiscoveryRule) (reordered : interfaces.Perm others)
    (distinct : interfaces.Pairwise (·.attributes.index ≠ ·.attributes.index)) :
    (findServices rules interfaces).filter (·.parameters.group.isNone) =
        (interfaces.filter fun i => (settingsFor rules i.attributes).enabled).map
          (serviceOf rules interfaces) ∧
      (findServices rules others).filter (·.parameters.group.isNone) =
        (others.filter fun i => (settingsFor rules i.attributes).enabled).map
          (serviceOf rules interfaces) := by
  have apart : others.Pairwise (·.attributes.index ≠ ·.attributes.index) :=
    reordered.pairwise distinct fun different same => different same.symm
  rw [single_services distinct, single_services apart, serviceOf_of_perm reordered]
  exact ⟨rfl, rfl⟩

end Reordered

theorem single_services_of_swapped_ports :
    (findServices [allNamed .descr] [upPort "2" "eth" none, upPort "1" "eth" none]).filter
      (·.parameters.group.isNone) =
      [serviceOf [allNamed .descr] [upPort "1" "eth" none, upPort "2" "eth" none]
        (upPort "2" "eth" none),
        serviceOf [allNamed .descr] [upPort "1" "eth" none, upPort "2" "eth" none]
          (upPort "1" "eth" none)] :=
  (single_services_of_perm [allNamed .descr]
    (.swap (upPort "2" "eth" none) (upPort "1" "eth" none) []) (by decide)).2

end Discovery

end IfaceMonitor
