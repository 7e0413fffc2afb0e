import IfaceMonitor.Link.Node
import IfaceMonitor.Proofs.Check.Nodes
import IfaceMonitor.Proofs.Discovery.Drafts

namespace IfaceMonitor

namespace Lookup

inductive FirstMatch (item : String) (source : Option NameSource) (own : List Interface)
    (i : Interface) : Prop
  | simple {before after : List Interface} (cut : own = before ++ i :: after)
      (here : isSimple item source i.attributes = true)
      (none_before : ∀ j ∈ before, isSimple item source j.attributes = false)
  | compound {before after : List Interface} (cut : own = before ++ i :: after)
      (none_simple : ∀ j ∈ own, isSimple item source j.attributes = false)
      (here : isCompound item source i.attributes = true)
      (none_before : ∀ j ∈ before, isCompound item source j.attributes = false)

def Matches (item : String) (source : Option NameSource) (i : Interface) : Prop :=
  isSimple item source i.attributes = true ∨ isCompound item source i.attributes = true

section First
variable {item : String} {source : Option NameSource} {own : List Interface} {i : Interface}

theorem first?_eq_some_iff :
    first? item source Interface.attributes own = some i ↔ FirstMatch item source own i := by
  rw [first?, Option.orElse_eq_orElse, Option.orElse_eq_or, Option.or_eq_some_iff,
    List.find?_eq_some_iff_append, List.find?_eq_some_iff_append, List.find?_eq_none]
  simp only [Bool.not_eq_true, Bool.not_eq_true']
  constructor
  · rintro (⟨here, before, after, cut, none_before⟩ | ⟨none_simple, here, before, after,
      cut, none_before⟩)
    · exact .simple cut here none_before
    · exact .compound cut none_simple here none_before
  · rintro (⟨cut, here, none_before⟩ | ⟨cut, none_simple, here, none_before⟩)
    · exact Or.inl ⟨here, _, _, cut, none_before⟩
    · exact Or.inr ⟨none_simple, here, _, _, cut, none_before⟩

theorem FirstMatch.mem (first : FirstMatch item source own i) : i ∈ own :=
  mem_of_first? Interface.attributes (first?_eq_some_iff.2 first)

theorem FirstMatch.matches (first : FirstMatch item source own i) : Matches item source i := by
  rcases first with ⟨-, here, -⟩ | ⟨-, -, here, -⟩
  · exact Or.inl here
  · exact Or.inr here

theorem exists_firstMatch (member : i ∈ own) (found : Matches item source i) :
    ∃ j, FirstMatch item source own j := by
  simp only [← first?_eq_some_iff, ← Option.isSome_iff_exists]
  rw [first?, Option.orElse_eq_orElse, Option.orElse_eq_or, Option.isSome_or, Bool.or_eq_true,
    List.find?_isSome, List.find?_isSome]
  exact found.imp (fun simple => ⟨i, member, simple⟩) fun compound => ⟨i, member, compound⟩

end First

end Lookup

def InNodeOrder (found : List Interface) : Prop :=
  found.Pairwise fun i j => i.attributes.nodeName < j.attributes.nodeName

theorem InNodeOrder.nodup {found : List Interface} (ordered : InNodeOrder found) : found.Nodup := by
  refine List.Pairwise.imp ?_ ordered
  rintro i _ below rfl
  exact lt_irrefl _ below

theorem InNodeOrder.eq_of_mem_iff {found others : List Interface} (ordered : InNodeOrder found)
    (ordered' : InNodeOrder others) (same : ∀ i, i ∈ found ↔ i ∈ others) :
    found = others := by
  have perm : found.Perm others := (List.perm_ext_iff_of_nodup ordered.nodup ordered'.nodup).2 same
  exact perm.eq_of_pairwise (fun i j _ _ below above => absurd above (lt_asymm below))
    ordered ordered'

namespace Section
open Lookup
variable {interfaces : Section} (clustered : ∀ i ∈ interfaces, i.attributes.node ≠ none)
  (item : String) (source : Option NameSource)
include clustered

theorem mem_meantBy_of_clustered {i : Interface} :
    i ∈ interfaces.meantBy item source ↔
      FirstMatch item source (onNode Interface.attributes i.attributes.node interfaces) i := by
  obtain ⟨nodes, -, covered, found⟩ :=
    matchesIn_of_clustered Interface.attributes clustered item source
  rw [meantBy, found, List.mem_filterMap]
  simp only [first?_eq_some_iff]
  constructor
  · rintro ⟨node, -, first⟩
    have same := ((mem_onNode Interface.attributes).1 first.mem).2
    exact same ▸ first
  · intro first
    have member := ((mem_onNode Interface.attributes).1 first.mem).1
    exact ⟨_, (covered _).2 ⟨i, member, rfl⟩, first⟩

theorem meantBy_inNodeOrder : InNodeOrder (interfaces.meantBy item source) := by
  have ascending := matchesIn_ascending Interface.attributes clustered item source
  rw [Ascending, List.pairwise_map] at ascending
  refine ascending.imp_of_mem fun {i j} memberI memberJ apart => ?_
  have named {i : Interface} (member : i ∈ interfaces.meantBy item source) :
      some i.attributes.nodeName = i.attributes.node := by
    have there :=
      ((mem_onNode Interface.attributes).1
        ((mem_meantBy_of_clustered clustered item source).1 member).mem).1
    obtain ⟨name, node⟩ := Option.ne_none_iff_exists'.1 (clustered i there)
    rw [Attributes.nodeName, node, Option.getD_some]
  rw [← named memberI, ← named memberJ] at apart
  exact lt_of_le_of_ne (of_decide_eq_true apart.1) fun same => apart.2 (congrArg some same)

end Section

open Lookup

/-- On a cluster an item means the first match of each node that has one, the nodes in the order of
their names. Sections whose nodes have the same interfaces in the same order give the same, however
the nodes are mixed. -/
theorem meantBy_of_cluster {interfaces : Section}
    (clustered : ∀ i ∈ interfaces, i.attributes.node ≠ none) (item : String)
    (source : Option NameSource) :
    InNodeOrder (interfaces.meantBy item source) ∧
      (∀ node, (∃ i ∈ interfaces.meantBy item source, i.attributes.node = node) ↔
        ∃ i ∈ interfaces, i.attributes.node = node ∧ Matches item source i) ∧
      (∀ i, i ∈ interfaces.meantBy item source ↔
        FirstMatch item source (onNode Interface.attributes i.attributes.node interfaces) i) ∧
      ∀ others : Section,
        (∀ node, onNode Interface.attributes node others =
          onNode Interface.attributes node interfaces) →
          others.meantBy item source = interfaces.meantBy item source := by
  have members := fun i => Section.mem_meantBy_of_clustered clustered item source (i := i)
  refine ⟨Section.meantBy_inNodeOrder clustered item source, fun node =>
    ?_, members, fun others mixed => ?_⟩
  · simp only [members]
    constructor
    · rintro ⟨i, first, rfl⟩
      exact ⟨i, ((mem_onNode Interface.attributes).1 first.mem).1, rfl, first.matches⟩
    · rintro ⟨i, member, rfl, found⟩
      obtain ⟨j, first⟩ :=
        exists_firstMatch ((mem_onNode Interface.attributes).2 ⟨member, rfl⟩) found
      have same := ((mem_onNode Interface.attributes).1 first.mem).2
      exact ⟨j, same.symm ▸ first, same⟩
  · have tagged : ∀ i ∈ others, i.attributes.node ≠ none := by
      intro i member
      have there := (mem_onNode Interface.attributes).2 ⟨member, rfl⟩
      rw [mixed] at there
      exact clustered i ((mem_onNode Interface.attributes).1 there).1
    refine (Section.meantBy_inNodeOrder tagged item source).eq_of_mem_iff
      (Section.meantBy_inNodeOrder clustered item source) fun i => ?_
    rw [members, Section.mem_meantBy_of_clustered tagged, mixed]

open Discovery in
def separateNodes : Section :=
  .ofNodes [("node1", [upPort "1" "wan" none, upPort "3" "lan" none]),
    ("node2", [upPort "2" "lan" none, upPort "1" "lan" none])]

open Discovery in
def mixedNodes : Section :=
  [(upPort "2" "lan" none).onNode "node2", (upPort "1" "wan" none).onNode "node1",
    (upPort "1" "lan" none).onNode "node2", (upPort "3" "lan" none).onNode "node1"]

open Discovery in
theorem meantBy_of_mixedNodes :
    mixedNodes.meantBy "lan" none = separateNodes.meantBy "lan" none ∧
      (upPort "2" "lan" none).onNode "node2" ∈ separateNodes.meantBy "lan" none := by
  have clustered : ∀ i ∈ separateNodes, i.attributes.node ≠ none := by
    simp [separateNodes, Section.ofNodes, Interface.onNode]
  obtain ⟨-, -, members, mixed⟩ := meantBy_of_cluster clustered "lan" none
  constructor
  · refine mixed mixedNodes fun node => ?_
    by_cases first : node = some "node1"
    · simp [first, onNode, mixedNodes, separateNodes, Section.ofNodes, Interface.onNode]
    · by_cases second : node = some "node2"
      · simp [second, onNode, mixedNodes, separateNodes, Section.ofNodes, Interface.onNode]
      · simp [onNode, mixedNodes, separateNodes, Section.ofNodes, Interface.onNode,
          Ne.symm first, Ne.symm second]
  · have own : onNode Interface.attributes (some "node2") separateNodes =
        [] ++ (upPort "2" "lan" none).onNode "node2" ::
            [(upPort "1" "lan" none).onNode "node2"] := by
      simp [onNode, separateNodes, Section.ofNodes, Interface.onNode]
    have simple :
        isSimple "lan" none ((upPort "2" "lan" none).onNode "node2").attributes = true := by
      decide
    exact (members _).2 (.simple own simple fun j earlier => absurd earlier List.not_mem_nil)

end IfaceMonitor
