import IfaceMonitor.Proofs.Check.Matches
import IfaceMonitor.Proofs.Check.Nodes
import IfaceMonitor.Proofs.Rate.Keys

namespace IfaceMonitor

namespace Section
variable {nodes : List (String × Section)} {item : String} {source : Option NameSource}

def firstMatch? (interfaces : Section) (item : String) (source : Option NameSource) :
    Option Interface :=
  Lookup.first? item source Interface.attributes interfaces

theorem firstMatch?_onNode (interfaces : Section) (node item : String)
    (source : Option NameSource) :
    firstMatch? (interfaces.map (Interface.onNode node)) item source =
      (interfaces.firstMatch? item source).map (Interface.onNode node) := by
  simp only [firstMatch?, Lookup.first?, Option.orElse_eq_orElse, Option.orElse_eq_or,
    List.find?_map, Option.map_or]
  rfl

theorem mem_ofNodes {i : Interface} :
    i ∈ ofNodes nodes ↔ ∃ given ∈ nodes, ∃ own ∈ given.2, own.onNode given.1 = i := by
  simp only [ofNodes, List.mem_flatMap, List.mem_map]

theorem ofNodes_clustered (nodes : List (String × Section)) :
    ∀ i ∈ ofNodes nodes, i.attributes.node ≠ none := by
  intro i member
  obtain ⟨given, -, own, -, rfl⟩ := mem_ofNodes.1 member
  exact Option.some_ne_none given.1

theorem onNode_ofNodes (distinct : (nodes.map (·.1)).Nodup) {given : String × Section}
    (listed : given ∈ nodes) :
    Lookup.onNode Interface.attributes (some given.1) (ofNodes nodes) =
      given.2.map (Interface.onNode given.1) := by
  have absent {nodes : List (String × Section)} (unnamed : given.1 ∉ nodes.map (·.1)) :
      Lookup.onNode Interface.attributes (some given.1) (ofNodes nodes) = [] := by
    apply List.filter_eq_nil_iff.2
    intro i member same
    obtain ⟨other, there, own, -, rfl⟩ := mem_ofNodes.1 member
    exact unnamed (List.mem_map.2 ⟨other, there, Option.some.inj (beq_iff_eq.1 same)⟩)
  induction nodes with
  | nil => cases listed
  | cons first rest ih =>
    obtain ⟨new, distinct⟩ := List.nodup_cons.1 distinct
    have parts : ofNodes (first :: rest) = first.2.map (Interface.onNode first.1) ++ ofNodes rest :=
      rfl
    rw [parts, Lookup.onNode, List.filter_append]
    rcases List.mem_cons.1 listed with rfl | later
    · have all : (given.2.map (Interface.onNode given.1)).filter
          (·.attributes.node == some given.1) =
            given.2.map (Interface.onNode given.1) := by
        apply List.filter_eq_self.2
        simp [Interface.onNode]
      have others := absent new
      rw [Lookup.onNode] at others
      rw [all, others, List.append_nil]
    · have none_here : (first.2.map (Interface.onNode first.1)).filter
          (·.attributes.node == some given.1) = [] := by
        have different : first.1 ≠ given.1 := fun same =>
          new (List.mem_map.2 ⟨given, later, same.symm⟩)
        apply List.filter_eq_nil_iff.2
        simp [Interface.onNode, different]
      rw [none_here, List.nil_append]
      exact ih distinct later

theorem mem_meantBy_ofNodes (distinct : (nodes.map (·.1)).Nodup) {x : Interface} :
    x ∈ (ofNodes nodes).meantBy item source ↔
      ∃ given ∈ nodes, ∃ i, given.2.firstMatch? item source = some i ∧
        i.onNode given.1 = x := by
  obtain ⟨names, -, covered, found⟩ :=
    Lookup.matchesIn_of_clustered Interface.attributes (ofNodes_clustered nodes) item source
  rw [meantBy, found, List.mem_filterMap]
  have matched {given : String × Section} (listed : given ∈ nodes) :
      Lookup.first? item source Interface.attributes
        (Lookup.onNode Interface.attributes (some given.1) (ofNodes nodes)) = some x ↔
        ∃ i, given.2.firstMatch? item source = some i ∧ i.onNode given.1 = x := by
    rw [onNode_ofNodes distinct listed, ← Option.map_eq_some_iff, ← firstMatch?_onNode]
    rfl
  constructor
  · rintro ⟨name, member, first⟩
    obtain ⟨y, there, rfl⟩ := (covered name).1 member
    obtain ⟨given, listed, own, -, rfl⟩ := mem_ofNodes.1 there
    exact ⟨given, listed, (matched listed).1 first⟩
  · rintro ⟨given, listed, i, first, rfl⟩
    refine ⟨some given.1, (covered _).2
      ⟨i.onNode given.1, mem_ofNodes.2 ⟨given, listed, i, ?_, rfl⟩, rfl⟩, ?_⟩
    · exact Lookup.mem_of_first? Interface.attributes first
    · exact (matched listed).2 ⟨i, first, rfl⟩

theorem getLast?_meantBy_ofNodes {x : Interface} :
    ((ofNodes nodes).meantBy item source).getLast? = some x ↔
      x ∈ (ofNodes nodes).meantBy item source ∧
        ∀ y ∈ (ofNodes nodes).meantBy item source,
          Lookup.nodeLe y.attributes.node x.attributes.node = true := by
  have ascending :=
    Lookup.matchesIn_ascending Interface.attributes (ofNodes_clustered nodes) item source
  rw [Lookup.Ascending, List.pairwise_map] at ascending
  rw [meantBy]
  generalize Lookup.matchesIn item source Interface.attributes (ofNodes nodes) =
    found at ascending ⊢
  rcases List.eq_nil_or_concat found with rfl | ⟨before, last, rfl⟩
  · simp
  rw [List.concat_eq_append, List.getLast?_concat, Option.some.injEq]
  rw [List.concat_eq_append, List.pairwise_append] at ascending
  have below (y : Interface) (member : y ∈ before) :=
    ascending.2.2 y member last (List.mem_singleton_self last)
  have self : Lookup.nodeLe last.attributes.node last.attributes.node = true := by
    simpa using Lookup.nodeLe_total last.attributes.node last.attributes.node
  constructor
  · rintro rfl
    refine ⟨List.mem_append_right _ (List.mem_singleton_self last), fun y member => ?_⟩
    rcases List.mem_append.1 member with earlier | here
    · exact (below y earlier).1
    · rw [List.mem_singleton.1 here]
      exact self
  · rintro ⟨member, greatest⟩
    rcases List.mem_append.1 member with earlier | here
    · obtain ⟨least, different⟩ := below x earlier
      exact absurd (Lookup.nodeLe_antisymm least
        (greatest last (List.mem_append_right _ (List.mem_singleton_self last))))
        different
    · exact (List.mem_singleton.1 here).symm

theorem getLast?_meantBy_of_last_given (distinct : (nodes.map (·.1)).Nodup)
    {before after : List (String × Section)} {node : String} {interfaces : Section}
    (cut : nodes = before ++ (node, interfaces) :: after) {i : Interface}
    (matched : interfaces.firstMatch? item source = some i)
    (last : ∀ other ∈ after, other.2.firstMatch? item source = none) :
    ((ofNodes nodes).meantBy item source).getLast? = some (i.onNode node) ↔
      ∀ other ∈ before, (other.2.firstMatch? item source).isSome = true →
        other.1 ≤ node := by
  have listed : (node, interfaces) ∈ nodes :=
    cut ▸ List.mem_append_right before List.mem_cons_self
  rw [getLast?_meantBy_ofNodes]
  constructor
  · rintro ⟨-, greatest⟩ other member found
    obtain ⟨j, first⟩ := Option.isSome_iff_exists.1 found
    have there : other ∈ nodes := cut ▸ List.mem_append_left _ member
    have least :=
      greatest (j.onNode other.1)
        ((mem_meantBy_ofNodes distinct).2 ⟨other, there, j, first, rfl⟩)
    exact of_decide_eq_true least
  · intro greatest
    refine ⟨(mem_meantBy_ofNodes distinct).2 ⟨_, listed, i, matched, rfl⟩,
      fun y member => ?_⟩
    obtain ⟨other, there, j, first, rfl⟩ := (mem_meantBy_ofNodes distinct).1 member
    apply decide_eq_true
    rw [cut] at there
    rcases List.mem_append.1 there with earlier | there
    · exact greatest other earlier (Option.isSome_iff_exists.2 ⟨j, first⟩)
    · rcases List.mem_cons.1 there with rfl | later
      · exact le_refl node
      · rw [last other later] at first
        cases first

end Section

namespace Check

theorem foldl_add_of_silent {reports : List (List Entry)}
    (silent : ∀ report ∈ reports, outgoingTraffic? report = none) (s : Selection) :
    reports.foldl Selection.add s = { s with last := reports.getLast?.getD s.last } := by
  induction reports generalizing s with
  | nil => rfl
  | cons first rest ih =>
    have added : s.add first = { s with last := first } := by
      rw [Selection.add, silent first List.mem_cons_self]
    rw [List.foldl_cons, ih fun report member =>
      silent report (List.mem_cons_of_mem first member), added, List.getLast?_cons]
    rfl

theorem chosenEntries_of_silent {reports : List (List Entry)}
    (silent : ∀ report ∈ reports, outgoingTraffic? report = none) :
    chosenEntries reports = reports.getLast?.getD [] := by
  rw [chosenEntries, foldl_add_of_silent silent]
  rfl

end Check

/-- On clusters whose matches have no outgoing traffic the last match is reported. It is on the node
that was given last among those with a match exactly if no node with a match that was given before
has a greater name. -/
theorem silent_cluster_reports_greatest_name {nodes : List (String × Section)}
    (distinct : (nodes.map (·.1)).Nodup) {item : String} {settings : CheckSettings}
    (ungrouped : settings.discovered.group = none) {time : Float} {store after : SampleStore}
    {entries : List Entry}
    (checked : checkItem none item settings (.ofNodes nodes) time store = .ok (entries, after)) :
    ∃ reports,
      Check.ReportsOfEach none item settings time
        ((Section.ofNodes nodes).meantBy item settings.discovered.naming) store
        reports ∧
      ((∀ report ∈ reports, Check.outgoingTraffic? report = none) →
        entries = reports.getLast?.getD [] ∧
          ∀ before node interfaces others i, nodes = before ++ (node, interfaces) :: others →
            interfaces.firstMatch? item settings.discovered.naming = some i →
            (∀ other ∈ others, other.2.firstMatch? item settings.discovered.naming = none) →
            (((Section.ofNodes nodes).meantBy item settings.discovered.naming).getLast? =
              some (i.onNode node) ↔
              ∀ other ∈ before, (other.2.firstMatch? item settings.discovered.naming).isSome =
                true → other.1 ≤ node)) := by
  obtain ⟨-, reports, reported, rfl, -⟩ := (Check.checkItem_single ungrouped).1 checked
  refine ⟨reports, reported, fun silent => ⟨Check.chosenEntries_of_silent silent, ?_⟩⟩
  intro before node interfaces others i cut matched last
  exact Section.getLast?_meantBy_of_last_given distinct cut matched last

def cutPort : Interface :=
  { aliasedPort "" with attributes := { (aliasedPort "").attributes with operStatus := .down } }

def upExpected : CheckSettings :=
  { CheckSettings.standard with operStates := some [.up] }

def crossedNodes : List (String × Section) :=
  [("b", [aliasedPort ""]), ("a", [cutPort])]

theorem meantBy_crossedNodes :
    (Section.ofNodes crossedNodes).meantBy "eth0" upExpected.discovered.naming =
      [cutPort.onNode "a", (aliasedPort "").onNode "b"] := by
  have lists : Lookup.byNode Interface.attributes (Section.ofNodes crossedNodes) =
      [[cutPort.onNode "a"], [(aliasedPort "").onNode "b"]] := by
    rw [Lookup.byNode]
    simp [List.mergeSort, crossedNodes, Section.ofNodes, Interface.onNode, Lookup.nodeLe]
    rfl
  have tagged : ¬((aliasedPort "").onNode "b").attributes.node.isNone = true := Bool.false_ne_true
  show Lookup.matchesIn "eth0" none Interface.attributes
    ((aliasedPort "").onNode "b" :: [cutPort.onNode "a"]) = _
  rw [Lookup.matchesIn, if_neg tagged]
  show (Lookup.byNode Interface.attributes (Section.ofNodes crossedNodes)).filterMap _ = _
  rw [lists]
  rfl

theorem reports_of_crossedNodes {reports : List (List Entry)}
    (reported : Check.ReportsOfEach none "eth0" upExpected 5.0
      [cutPort.onNode "a", (aliasedPort "").onNode "b"] .empty reports) :
    ∃ ofA ofB, reports = [ofA, ofB] ∧
      (∀ report ∈ [ofA, ofB], Check.outgoingTraffic? report = none) ∧
      overallState ofA = .crit ∧ overallState ofB = .ok := by
  obtain ⟨ofA, _, first, others, rfl⟩ := List.forall₂_cons_left_iff.1 reported
  obtain ⟨ofB, _, second, nothing, rfl⟩ := List.forall₂_cons_left_iff.1 others
  cases List.forall₂_nil_left_iff.1 nothing
  cases first
  cases second
  refine ⟨_, _, rfl, ?_, rfl, rfl⟩
  rintro report (_ | ⟨_, _ | ⟨_, ⟨⟩⟩⟩) <;> rfl

theorem last_match_of_crossedNodes :
    ∃ entries after,
      checkItem none "eth0" upExpected (.ofNodes crossedNodes) 5.0 .empty = .ok (entries, after) ∧
        ((Section.ofNodes crossedNodes).meantBy "eth0" upExpected.discovered.naming).getLast? ≠
          some (cutPort.onNode "a") := by
  have required : Check.requireComparator none upExpected = .ok () := rfl
  obtain ⟨entries, checked⟩ :=
    Check.checkItem_succeeds required "eth0" (.ofNodes crossedNodes) 5.0 .empty
  obtain ⟨reports, reported, fallback⟩ :=
    silent_cluster_reports_greatest_name (by decide) rfl checked
  rw [meantBy_crossedNodes] at reported
  obtain ⟨ofA, ofB, rfl, silent, -⟩ := reports_of_crossedNodes reported
  refine ⟨entries, _, checked, fun same => ?_⟩
  have least :=
    ((fallback silent).2 [("b", [aliasedPort ""])] "a" [cutPort] [] cutPort rfl rfl nofun).1 same
  exact absurd (least _ List.mem_cons_self rfl) (by decide)

theorem last_given_node_unreported :
    ∃ ofA ofB after,
      checkItem none "eth0" upExpected (.ofNodes crossedNodes) 5.0 .empty = .ok (ofB, after) ∧
        Check.ReportsOfEach none "eth0" upExpected 5.0
          [cutPort.onNode "a", (aliasedPort "").onNode "b"] .empty [ofA, ofB] ∧
        (∀ report ∈ [ofA, ofB], Check.outgoingTraffic? report = none) ∧
        overallState ofA = .crit ∧ overallState ofB = .ok := by
  have required : Check.requireComparator none upExpected = .ok () := rfl
  obtain ⟨reports, reported⟩ := Check.reportsOfEach_exist required "eth0" 5.0
    [cutPort.onNode "a", (aliasedPort "").onNode "b"] .empty
  obtain ⟨ofA, ofB, rfl, silent, states⟩ := reports_of_crossedNodes reported
  refine ⟨ofA, ofB, _, (Check.checkItem_single rfl).2 ⟨required, [ofA, ofB], ?_, ?_, rfl⟩,
    reported, silent, states⟩
  · rwa [meantBy_crossedNodes]
  · rw [Check.chosenEntries_of_silent silent]
    rfl

end IfaceMonitor
