import IfaceMonitor.Link.Node
import IfaceMonitor.Proofs.Discovery.Drafts

namespace IfaceMonitor

def Attributes.onNode (a : Attributes) (node : String) : Attributes :=
  { a with node := some node }

def Section.onNodes (interfaces : Section) (nodes : List String) : Section :=
  .ofNodes (nodes.map fun node => (node, interfaces))

theorem Section.onNodes_eq (interfaces : Section) (nodes : List String) :
    interfaces.onNodes nodes = nodes.flatMap fun node =>
      interfaces.map (Interface.onNode node) := by
  rw [onNodes, ofNodes, List.flatMap_map]

theorem Section.attributes_onNodes (interfaces : Section) (nodes : List String) :
    (interfaces.onNodes nodes).map (·.attributes) =
      nodes.flatMap fun node => (interfaces.map (·.attributes)).map (·.onNode node) := by
  simp only [onNodes_eq, List.map_flatMap, List.map_map]
  rfl

namespace Discovery

section OnNode
variable (rules : List DiscoveryRule) (width : Option Nat) (a : Attributes) (node : String)

theorem settingsFor_onNode : settingsFor rules (a.onNode node) = settingsFor rules a := rfl

theorem appearances_onNode :
    appearances rules width (a.onNode node) = appearances rules width a := rfl

theorem singleDraft_onNode (s : SingleSettings) :
    singleDraft s width (a.onNode node) = singleDraft s width a := rfl

end OnNode

theorem max?_eq_of_mem_iff {xs ys : List Nat} (same : ∀ n, n ∈ xs ↔ n ∈ ys) :
    xs.max? = ys.max? := by
  ext n
  simp only [List.max?_eq_some_iff, same]

theorem indexWidth?_onNodes (as : List Attributes) {nodes : List String} (some : nodes ≠ []) :
    indexWidth? (nodes.flatMap fun node => as.map (·.onNode node)) = indexWidth? as := by
  obtain ⟨first, member⟩ := List.exists_mem_of_ne_nil nodes some
  unfold indexWidth?
  congr 1
  apply max?_eq_of_mem_iff
  intro n
  simp only [List.mem_filterMap, List.mem_flatMap, List.mem_map]
  constructor
  · rintro ⟨_, ⟨node, -, a, ha, rfl⟩, number⟩
    exact ⟨a, ha, number⟩
  · rintro ⟨a, ha, number⟩
    exact ⟨a.onNode first, ⟨first, member, a, ha, rfl⟩, number⟩

theorem count_flatMap_const {α : Type} [BEq α] (nodes : List String) (xs : List α) (x : α) :
    (nodes.flatMap fun _ => xs).count x = nodes.length * xs.count x := by
  induction nodes with
  | nil => simp
  | cons node rest ih =>
    rw [List.flatMap_cons, List.count_append, ih, List.length_cons, Nat.succ_mul, Nat.add_comm]

theorem count_allNames (rules : List DiscoveryRule) (interfaces : Section) {nodes : List String}
    (some : nodes ≠ []) (name : String) :
    (allNames rules (interfaces.onNodes nodes)).count name =
      nodes.length * (allNames rules interfaces).count name := by
  have copies : allNames rules (interfaces.onNodes nodes) = nodes.flatMap fun _ =>
      allNames rules interfaces := by
    simp only [allNames, Section.attributes_onNodes, indexWidth?_onNodes _ some, List.flatMap_assoc,
      List.flatMap_map, appearances_onNode]
  rw [copies, count_flatMap_const]

theorem singles_eq_nil {rules : List DiscoveryRule} {width : Option Nat} {seen : List String}
    {as : List Attributes}
    (met : ∀ a ∈ as, (settingsFor rules a).enabled = true → a.index ∈ seen) :
    singles rules width seen as = [] := by
  induction as with
  | nil => rfl
  | cons a rest ih =>
    rw [singles, if_neg, ih fun b hb => met b (List.mem_cons_of_mem a hb)]
    simpa using met a List.mem_cons_self

theorem singles_append {rules : List DiscoveryRule} {width : Option Nat} {seen : List String}
    {as bs : List Attributes}
    (met : ∀ b ∈ bs, (settingsFor rules b).enabled = true → b.index ∈ seen ∨
      ∃ a ∈ as, (settingsFor rules a).enabled = true ∧ a.index = b.index) :
    singles rules width seen (as ++ bs) = singles rules width seen as := by
  induction as generalizing seen with
  | nil =>
    apply singles_eq_nil
    intro b hb enabled
    simpa using met b hb enabled
  | cons a rest ih =>
    rw [List.cons_append, singles, singles]
    by_cases taken : ((settingsFor rules a).enabled && !seen.contains a.index) = true
    · rw [if_pos taken, if_pos taken, ih]
      intro b hb enabled
      rcases met b hb enabled with before | ⟨c, hc, active, same⟩
      · exact Or.inl (List.mem_cons_of_mem _ before)
      · rcases List.mem_cons.1 hc with rfl | hc
        · exact Or.inl (same ▸ List.mem_cons_self)
        · exact Or.inr ⟨c, hc, active, same⟩
    · rw [if_neg taken, if_neg taken, ih]
      intro b hb enabled
      rcases met b hb enabled with before | ⟨c, hc, active, same⟩
      · exact Or.inl before
      · rcases List.mem_cons.1 hc with rfl | hc
        -- The interface is enabled and was not taken, so its index is an old one.
        · exact Or.inl (same ▸ by simpa [active] using taken)
        · exact Or.inr ⟨c, hc, active, same⟩

theorem singles_onNode (rules : List DiscoveryRule) (width : Option Nat) (seen : List String)
    (as : List Attributes) (node : String) :
    singles rules width seen (as.map (·.onNode node)) = singles rules width seen as := by
  induction as generalizing seen with
  | nil => rfl
  | cons a rest ih =>
    rw [List.map_cons, singles, singles, ih, ih, settingsFor_onNode, singleDraft_onNode]
    rfl

theorem singleDrafts_onNodes (rules : List DiscoveryRule) (interfaces : Section)
    {nodes : List String} (some : nodes ≠ []) :
    singleDrafts rules (interfaces.onNodes nodes) = singleDrafts rules interfaces := by
  obtain ⟨node, others, rfl⟩ := List.exists_cons_of_ne_nil some
  simp only [singleDrafts, Section.attributes_onNodes, indexWidth?_onNodes _ some]
  rw [List.flatMap_cons, singles_append, singles_onNode]
  intro b hb enabled
  obtain ⟨other, -, hb⟩ := List.mem_flatMap.1 hb
  obtain ⟨a, ha, rfl⟩ := List.mem_map.1 hb
  exact Or.inr ⟨a.onNode node, List.mem_map_of_mem ha, enabled, rfl⟩

theorem putNew_of_met {decls : GroupDecls} {decl : GroupDecl}
    (met : decl.name ∈ decls.map (·.name)) :
    decls.putNew decl = decls := by
  obtain ⟨other, member, same⟩ := List.mem_map.1 met
  have found : decls.any (·.name == decl.name) = true :=
    List.any_eq_true.2 ⟨other, member, beq_iff_eq.2 same⟩
  rw [GroupDecls.putNew, if_pos found]

theorem name_mem_putNew (decls : GroupDecls) (decl : GroupDecl) :
    decl.name ∈ (decls.putNew decl).map (·.name) ∧
      decls.map (·.name) ⊆ (decls.putNew decl).map (·.name) := by
  by_cases met : decl.name ∈ decls.map (·.name)
  · rw [putNew_of_met met]
    exact ⟨met, List.Subset.refl _⟩
  · have fresh : ¬decls.any (·.name == decl.name) = true := by
      intro found
      obtain ⟨other, member, same⟩ := List.any_eq_true.1 found
      exact met (List.mem_map.2 ⟨other, member, beq_iff_eq.1 same⟩)
    rw [GroupDecls.putNew, if_neg fresh, List.map_append]
    exact ⟨List.mem_append_right _ (List.mem_singleton_self _), List.subset_append_left _ _⟩

theorem names_subset_foldl_putNew (tagged decls : GroupDecls) :
    decls.map (·.name) ⊆ (tagged.foldl GroupDecls.putNew decls).map (·.name) ∧
      tagged.map (·.name) ⊆ (tagged.foldl GroupDecls.putNew decls).map (·.name) := by
  induction tagged generalizing decls with
  | nil => exact ⟨List.Subset.refl _, List.nil_subset _⟩
  | cons decl rest ih =>
    obtain ⟨old, others⟩ := ih (decls.putNew decl)
    obtain ⟨new, before⟩ := name_mem_putNew decls decl
    exact ⟨List.Subset.trans before old, List.cons_subset.2 ⟨old new, others⟩⟩

theorem foldl_putNew_of_met {tagged decls : GroupDecls}
    (met : tagged.map (·.name) ⊆ decls.map (·.name)) :
    tagged.foldl GroupDecls.putNew decls = decls := by
  induction tagged with
  | nil => rfl
  | cons decl rest ih =>
    obtain ⟨first, others⟩ := List.cons_subset.1 met
    rw [List.foldl_cons, putNew_of_met first, ih others]

theorem declaredGroups_onNodes (rules : List DiscoveryRule) (as : List Attributes)
    {nodes : List String} (some : nodes ≠ []) :
    declaredGroups rules (nodes.flatMap fun node => as.map (·.onNode node)) =
      declaredGroups rules as := by
  have tags (node : String) :
      (as.map (·.onNode node)).filterMap (taggedGroup? rules) =
          as.filterMap (taggedGroup? rules) := by
    rw [List.filterMap_map]
    rfl
  obtain ⟨node, others, rfl⟩ := List.exists_cons_of_ne_nil some
  simp only [declaredGroups, List.flatMap_cons, List.filterMap_append, List.filterMap_flatMap, tags,
    List.foldl_append]
  congr 1
  -- The other nodes only repeat the names that the first one has declared.
  apply foldl_putNew_of_met
  intro name member
  obtain ⟨decl, repeated, rfl⟩ := List.mem_map.1 member
  obtain ⟨-, -, tagged⟩ := List.mem_flatMap.1 repeated
  exact (names_subset_foldl_putNew _ []).2 (List.mem_map_of_mem tagged)

theorem membersIn_onNodes_eq_nil (config : GroupConfig) (group : String) (interfaces : Section)
    {nodes : List String} (some : nodes ≠ []) :
    config.membersIn group (interfaces.onNodes nodes) = [] ↔
      config.membersIn group interfaces = [] := by
  obtain ⟨node, member⟩ := List.exists_mem_of_ne_nil nodes some
  simp only [GroupConfig.membersIn, List.filter_eq_nil_iff, Section.onNodes_eq,
    List.mem_flatMap, List.mem_map]
  constructor
  · intro none i hi
    exact none (i.onNode node) ⟨node, member, i, hi, rfl⟩
  · rintro none _ ⟨-, -, i, hi, rfl⟩
    exact none i hi

structure Title where
  name : String
  index : String
  isIndex : Bool

def DraftItem.title (d : DraftItem) : Title :=
  ⟨d.name, d.index, d.isIndex⟩

def Title.completed (t : Title) (times : Nat) : String :=
  if 1 < times && !t.isIndex then t.name ++ " " ++ shownIndex t.index else t.name

theorem toService_name (names : List String) (d : DraftItem) :
    (d.toService names).name = d.title.completed (names.count d.title.name) := rfl

theorem title_groupDraft?_onNodes (interfaces : Section) {nodes : List String} (some : nodes ≠ [])
    (g : GroupDecl) :
    (groupDraft? (interfaces.onNodes nodes) g).map (·.title) =
      (groupDraft? interfaces g).map (·.title) := by
  have members := membersIn_onNodes_eq_nil g.config g.name interfaces some
  by_cases empty : g.config.membersIn g.name interfaces = []
  · simp [groupDraft?, empty, members.2 empty]
  · simp [groupDraft?, empty, mt members.1 empty, DraftItem.title]

theorem map_title_drafts (rules : List DiscoveryRule) (interfaces : Section) {nodes : List String}
    (some : nodes ≠ []) :
    (drafts rules (interfaces.onNodes nodes)).map (·.title) =
      (drafts rules interfaces).map (·.title) := by
  simp only [drafts, List.map_append, singleDrafts_onNodes rules interfaces some, groupDrafts,
    List.map_filterMap, Section.attributes_onNodes, declaredGroups_onNodes rules _ some,
    title_groupDraft?_onNodes interfaces some]

theorem names_onNodes (rules : List DiscoveryRule) (interfaces : Section) {nodes : List String}
    (some : nodes ≠ []) :
    (findServices rules (interfaces.onNodes nodes)).map (·.name) =
      (drafts rules interfaces).map fun d =>
        d.title.completed (nodes.length * (allNames rules interfaces).count d.name) := by
  let complete (t : Title) := t.completed (nodes.length * (allNames rules interfaces).count t.name)
  have titles := congrArg (List.map complete) (map_title_drafts rules interfaces some)
  rw [List.map_map, List.map_map] at titles
  rw [findServices_eq_map, List.map_map]
  simp only [Function.comp_def, toService_name, count_allNames rules interfaces some]
  exact titles

theorem completed_mul_eq_iff (t : Title) (times : Nat) {nodes : Nat} (some : 0 < nodes) :
    t.completed (nodes * times) = t.completed times ↔
      nodes = 1 ∨ t.isIndex = true ∨ times ≠ 1 := by
  unfold Title.completed
  cases isIndex : t.isIndex with
  | true => simp
  | false =>
    rcases Nat.lt_trichotomy times 1 with zero | rfl | several
    · obtain rfl : times = 0 := by omega
      simp
    · rw [Nat.mul_one]
      by_cases more : 1 < nodes
      · have longer := append_index_ne t.name (shownIndex t.index)
        simp [more, longer]
        omega
      · have one : nodes = 1 := by omega
        simp [one]
    · have often : 1 < nodes * times :=
        Nat.lt_of_lt_of_le several (Nat.le_mul_of_pos_left times some)
      simp [several, often]
      omega

/-- Further nodes rename nothing only where there are none, or where no item but numbers that tell
their index has a name that the host counts once. -/
theorem names_onNodes_eq_iff (rules : List DiscoveryRule) (interfaces : Section) (node : String)
    (others : List String) :
    (findServices rules (interfaces.onNodes (node :: others))).map (·.name) =
      (findServices rules interfaces).map (·.name) ↔
      others = [] ∨ ∀ d ∈ drafts rules interfaces, d.isIndex = true ∨
        (allNames rules interfaces).count d.name ≠ 1 := by
  have some : node :: others ≠ [] := List.cons_ne_nil node others
  have kept (d : DraftItem) :=
    completed_mul_eq_iff d.title ((allNames rules interfaces).count d.name)
      (List.length_pos_of_ne_nil some)
  have alone : (node :: others).length = 1 ↔ others = [] := by simp
  rw [names_onNodes rules interfaces some, findServices_eq_map, List.map_map, List.map_inj_left]
  constructor
  · intro same
    rw [Classical.or_iff_not_imp_left]
    intro further d hd
    exact ((kept d).1 (same d hd)).resolve_left (mt alone.1 further)
  · intro unchanged d hd
    exact (kept d).2 (unchanged.imp alone.2 fun each => each d hd)

theorem names_on_second_node :
    (findServices [allNamed .descr] [upPort "1" "eth0" none]).map (·.name) = ["eth0"] ∧
      (findServices [allNamed .descr] (Section.onNodes [upPort "1" "eth0" none] ["a", "b"])).map
        (·.name) = ["eth0 1"] :=
  ⟨rfl, rfl⟩

end Discovery

end IfaceMonitor
