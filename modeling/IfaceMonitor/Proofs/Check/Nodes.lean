import IfaceMonitor.Check.Lookup
import Mathlib.Data.List.SplitBy
import Mathlib.Data.String.Basic

namespace IfaceMonitor.Lookup

theorem nodeLe_trans {a b c : Option String} (first : nodeLe a b = true)
    (second : nodeLe b c = true) :
    nodeLe a c = true := by
  cases a with
  | none => rfl
  | some a =>
    cases b with
    | none => cases first
    | some b =>
      cases c with
      | none => cases second
      | some c =>
        simp only [nodeLe, decide_eq_true_eq] at first second ⊢
        exact le_trans first second

theorem nodeLe_total (a b : Option String) : (nodeLe a b || nodeLe b a) = true := by
  cases a with
  | none => rfl
  | some a =>
    cases b with
    | none => rfl
    | some b =>
      simp only [nodeLe, Bool.or_eq_true, decide_eq_true_eq]
      exact le_total a b

theorem nodeLe_antisymm {a b : Option String} (first : nodeLe a b = true)
    (second : nodeLe b a = true) : a = b := by
  cases a with
  | none =>
    cases b with
    | none => rfl
    | some b => cases second
  | some a =>
    cases b with
    | none => cases first
    | some b =>
      simp only [nodeLe, decide_eq_true_eq] at first second
      rw [le_antisymm first second]

def Ascending (nodes : List (Option String)) : Prop :=
  nodes.Pairwise fun a b => nodeLe a b = true ∧ a ≠ b

section ByNode
variable {α : Type} (attributes : α → Attributes)

def onNode (node : Option String) (xs : List α) : List α :=
  xs.filter fun x => (attributes x).node == node

theorem mem_onNode {node : Option String} {xs : List α} {x : α} :
    x ∈ onNode attributes node xs ↔ x ∈ xs ∧ (attributes x).node = node := by
  simp [onNode]

theorem onNode_cons_self (x : α) (xs : List α) :
    onNode attributes (attributes x).node (x :: xs) =
      x :: onNode attributes (attributes x).node xs := by
  simp [onNode]

theorem onNode_cons_of_ne {node : Option String} {x : α} (other : (attributes x).node ≠ node)
    (xs : List α) :
    onNode attributes node (x :: xs) = onNode attributes node xs := by
  simp [onNode, other]

theorem onNode_mergeSort (node : Option String) (xs : List α) :
    onNode attributes node
      (xs.mergeSort fun x y => nodeLe (attributes x).node (attributes y).node) =
      onNode attributes node xs := by
  have equal : (onNode attributes node xs).Pairwise fun x y =>
      nodeLe (attributes x).node (attributes y).node = true := by
    apply List.pairwise_of_forall_mem_list
    intro x hx y hy
    rw [((mem_onNode attributes).1 hx).2, ((mem_onNode attributes).1 hy).2]
    simpa using nodeLe_total node node
  have kept : (onNode attributes node xs).Sublist
      (xs.mergeSort fun x y => nodeLe (attributes x).node (attributes y).node) := by
    apply List.sublist_mergeSort
    · exact fun _ _ _ => nodeLe_trans
    · exact fun _ _ => nodeLe_total _ _
    · exact equal
    · exact List.filter_sublist
  have there := kept.filter fun x => (attributes x).node == node
  simp only [onNode, List.filter_filter, Bool.and_self] at there
  exact (there.eq_of_length ((List.mergeSort_perm xs _).symm.filter _).length_eq).symm

theorem sorted_mergeSort (xs : List α) :
    (xs.mergeSort fun x y => nodeLe (attributes x).node (attributes y).node).Pairwise
      fun x y => nodeLe (attributes x).node (attributes y).node = true := by
  apply List.pairwise_mergeSort
  · exact fun _ _ _ => nodeLe_trans
  · exact fun _ _ => nodeLe_total _ _

theorem exists_first_node {x : α} {rest : List α} {nodes : List (Option String)}
    (first : ∀ y ∈ rest, nodeLe (attributes x).node (attributes y).node = true)
    (ascending : Ascending nodes)
    (covered : ∀ node, node ∈ nodes ↔ ∃ y ∈ rest, (attributes y).node = node)
    (whole : nodes.flatMap (onNode attributes · rest) = rest) :
    ∃ others, Ascending ((attributes x).node :: others) ∧
      (∀ node, node ∈ (attributes x).node :: others ↔
        ∃ y ∈ x :: rest, (attributes y).node = node) ∧
      onNode attributes (attributes x).node rest ++
        others.flatMap (onNode attributes · rest) = rest := by
  -- Nothing in the rest comes before `x`, so if its node is met again it is the first one.
  by_cases met : (attributes x).node ∈ nodes
  · cases nodes with
    | nil => cases met
    | cons least others =>
      have least_eq : least = (attributes x).node := by
        obtain ⟨y, hy, same⟩ := (covered least).1 List.mem_cons_self
        have below := first y hy
        rcases List.mem_cons.1 met with same' | later
        · exact same'.symm
        · rw [same] at below
          exact nodeLe_antisymm ((List.pairwise_cons.1 ascending).1 _ later).1 below
      subst least_eq
      refine ⟨others, ascending, fun node => ?_, whole⟩
      rw [covered, List.exists_mem_cons_iff]
      constructor
      · exact Or.inr
      · rintro (same | there)
        · exact same ▸ (covered _).1 met
        · exact there
  · refine ⟨nodes, List.pairwise_cons.2 ⟨fun node member => ?_, ascending⟩,
      fun node => ?_, ?_⟩
    · obtain ⟨y, hy, rfl⟩ := (covered node).1 member
      exact ⟨first y hy, fun same => met (same ▸ member)⟩
    · rw [List.mem_cons, covered, List.exists_mem_cons_iff, eq_comm]
    · have none_there : onNode attributes (attributes x).node rest = [] := by
        apply List.filter_eq_nil_iff.2
        intro y hy same
        exact met ((covered _).2 ⟨y, hy, beq_iff_eq.1 same⟩)
      rw [none_there, List.nil_append, whole]

theorem exists_nodes_of_sorted {xs : List α}
    (sorted : xs.Pairwise fun x y => nodeLe (attributes x).node (attributes y).node = true) :
    ∃ nodes, Ascending nodes ∧
      (∀ node, node ∈ nodes ↔ ∃ x ∈ xs, (attributes x).node = node) ∧
      nodes.flatMap (onNode attributes · xs) = xs := by
  induction xs with
  | nil => exact ⟨[], .nil, by simp, rfl⟩
  | cons x rest ih =>
    obtain ⟨first, sorted⟩ := List.pairwise_cons.1 sorted
    obtain ⟨nodes, ascending, covered, whole⟩ := ih sorted
    obtain ⟨others, ascending, covered, whole⟩ :=
      exists_first_node attributes first ascending covered whole
    refine ⟨_, ascending, covered, ?_⟩
    have unchanged : others.flatMap (onNode attributes · (x :: rest)) =
        others.flatMap (onNode attributes · rest) := by
      apply List.flatMap_congr
      intro node member
      exact onNode_cons_of_ne attributes ((List.pairwise_cons.1 ascending).1 node member).2 rest
    rw [List.flatMap_cons, onNode_cons_self, unchanged, List.cons_append, whole]

theorem byNode_eq_map (xs : List α) :
    ∃ nodes, Ascending nodes ∧
      (∀ node, node ∈ nodes ↔ ∃ x ∈ xs, (attributes x).node = node) ∧
      byNode attributes xs = nodes.map (onNode attributes · xs) := by
  obtain ⟨nodes, ascending, covered, whole⟩ :=
    exists_nodes_of_sorted attributes (sorted_mergeSort attributes xs)
  simp only [(List.mergeSort_perm xs _).mem_iff] at covered
  refine ⟨nodes, ascending, covered, ?_⟩
  simp only [onNode_mergeSort] at whole
  rw [byNode, ← whole, List.flatMap]
  -- The groups are not empty, each is on one node, and neighbours are on different nodes.
  apply List.splitBy_flatten
  · intro empty
    obtain ⟨node, member, none_there⟩ := List.mem_map.1 empty
    obtain ⟨x, hx, same⟩ := (covered node).1 member
    have there := (mem_onNode attributes).2 ⟨hx, same⟩
    rw [none_there] at there
    cases there
  · intro group member
    obtain ⟨node, -, rfl⟩ := List.mem_map.1 member
    apply List.Pairwise.isChain
    apply List.pairwise_of_forall_mem_list
    intro x hx y hy
    rw [((mem_onNode attributes).1 hx).2, ((mem_onNode attributes).1 hy).2]
    exact beq_self_eq_true node
  · apply List.Pairwise.isChain
    rw [List.pairwise_map]
    refine ascending.imp_of_mem fun {a b} memberA memberB apart => ?_
    obtain ⟨x, hx, sameX⟩ := (covered a).1 memberA
    obtain ⟨y, hy, sameY⟩ := (covered b).1 memberB
    refine ⟨List.ne_nil_of_mem ((mem_onNode attributes).2 ⟨hx, sameX⟩),
      List.ne_nil_of_mem ((mem_onNode attributes).2 ⟨hy, sameY⟩), ?_⟩
    rw [((mem_onNode attributes).1 (List.getLast_mem _)).2,
      ((mem_onNode attributes).1 (List.head_mem _)).2]
    exact beq_eq_false_iff_ne.2 apart.2

theorem matchesIn_of_clustered {xs : List α}
    (clustered : ∀ x ∈ xs, (attributes x).node ≠ none) (item : String)
    (source : Option NameSource) :
    ∃ nodes, Ascending nodes ∧
      (∀ node, node ∈ nodes ↔ ∃ x ∈ xs, (attributes x).node = node) ∧
      matchesIn item source attributes xs =
        nodes.filterMap fun node => first? item source attributes (onNode attributes node xs) := by
  obtain ⟨nodes, ascending, covered, lists⟩ := byNode_eq_map attributes xs
  refine ⟨nodes, ascending, covered, ?_⟩
  have split : matchesIn item source attributes xs =
      (byNode attributes xs).filterMap (first? item source attributes) := by
    cases xs with
    | nil => simp [matchesIn, byNode]
    | cons x rest =>
      have tagged := clustered x List.mem_cons_self
      rw [matchesIn, if_neg (by simpa using tagged)]
  rw [split, lists, List.filterMap_map]
  rfl

theorem mem_of_first? {item : String} {source : Option NameSource} {xs : List α} {x : α}
    (found : first? item source attributes xs = some x) : x ∈ xs := by
  rw [first?, Option.orElse_eq_orElse, Option.orElse_eq_or, Option.or_eq_some_iff] at found
  rcases found with simple | ⟨-, compound⟩
  · exact List.mem_of_find?_eq_some simple
  · exact List.mem_of_find?_eq_some compound

theorem matchesIn_ascending {xs : List α} (clustered : ∀ x ∈ xs, (attributes x).node ≠ none)
    (item : String) (source : Option NameSource) :
    Ascending ((matchesIn item source attributes xs).map fun x => (attributes x).node) := by
  obtain ⟨nodes, ascending, -, found⟩ := matchesIn_of_clustered attributes clustered item source
  rw [found, Ascending, List.pairwise_map, List.pairwise_filterMap]
  refine ascending.imp fun {a b} apart x hx y hy => ?_
  rw [((mem_onNode attributes).1 (mem_of_first? attributes hx)).2,
    ((mem_onNode attributes).1 (mem_of_first? attributes hy)).2]
  exact apart

end ByNode

end IfaceMonitor.Lookup
