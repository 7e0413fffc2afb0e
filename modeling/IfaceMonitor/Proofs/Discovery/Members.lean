import IfaceMonitor.Proofs.Discovery.Drafts

namespace IfaceMonitor

theorem GroupConfig.membersIn_ne_of_tagged {config : GroupConfig} (tagged : config.inclusion = none)
    {interfaces : Section} {group other : String}
    (filled : config.membersIn group interfaces ≠ []) (different : other ≠ group) :
    config.membersIn other interfaces ≠ config.membersIn group interfaces := by
  obtain ⟨i, members⟩ := List.exists_mem_of_ne_nil _ filled
  have tag (name : String) : i ∈ config.membersIn name interfaces ↔
      i ∈ interfaces ∧ i.attributes.group = some name := by
    simp [membersIn, includes, tagged]
  intro same
  have both := members
  rw [← same, tag] at both
  rw [tag] at members
  exact different (Option.some.inj (both.2.symm.trans members.2))

theorem GroupConfig.membersIn_of_inclusion {config : GroupConfig}
    (declared : config.inclusion.isSome = true) (interfaces : Section) (group other : String) :
    config.membersIn other interfaces = config.membersIn group interfaces := by
  obtain ⟨inclusion, some⟩ := Option.isSome_iff_exists.1 declared
  have same : (fun i : Interface => config.includes other i.attributes) =
      fun i => config.includes group i.attributes := by
    funext i
    simp only [includes, some]
  rw [membersIn, membersIn, same]

open Discovery

theorem group_service_of_mem {rules : List DiscoveryRule} {interfaces : Section} {s : Service}
    (emitted : s ∈ findServices rules interfaces) {config : GroupConfig}
    (group : s.parameters.group = some config) :
    ∃ d ∈ groupDrafts rules interfaces, s = d.toService (allNames rules interfaces) := by
  rw [findServices_eq_map, List.mem_map] at emitted
  obtain ⟨d, draft, rfl⟩ := emitted
  rcases List.mem_append.1 draft with single | grouped
  · have none : (d.toService (allNames rules interfaces)).parameters.group = none :=
      ungrouped_of_mem_singleDrafts single
    rw [none] at group
    cases group
  · exact ⟨d, grouped, rfl⟩

/-- A discovered group has members, and its parameters are those of its members. At check time its
name finds the same members if rules declare it, or if its own name is counted at most once among
those of the interfaces; otherwise the name is completed and does not. -/
theorem membersIn_of_discovered_group {rules : List DiscoveryRule} {interfaces : Section}
    {s : Service} (emitted : s ∈ findServices rules interfaces) {config : GroupConfig}
    (group : s.parameters.group = some config) :
    ∃ g ∈ declaredGroups rules (interfaces.map (·.attributes)), g.config = config ∧
      config.membersIn g.name interfaces ≠ [] ∧
      s.parameters = groupParameters config (config.membersIn g.name interfaces) ∧
      s.name = (if 1 < (allNames rules interfaces).count g.name then g.name ++ " 1" else g.name) ∧
      (config.membersIn s.name interfaces = config.membersIn g.name interfaces ↔
        config.inclusion.isSome = true ∨ (allNames rules interfaces).count g.name ≤ 1) := by
  obtain ⟨d, grouped, rfl⟩ := group_service_of_mem emitted group
  obtain ⟨g, declared, draft⟩ := mem_groupDrafts.1 grouped
  obtain ⟨filled, named, index, noIndex, parameters⟩ := groupDraft?_eq_some draft
  have own : g.config = config := by
    have same : d.parameters.group = some config := group
    rw [parameters] at same
    exact Option.some.inj same
  subst own
  have final : (d.toService (allNames rules interfaces)).name =
      if 1 < (allNames rules interfaces).count g.name then g.name ++ " 1" else g.name := by
    split
    · next often =>
      rw [DraftItem.toService_name_of_completed ⟨named ▸ often, noIndex⟩, named, index,
        String.append_assoc]
      rfl
    · next once =>
      rw [DraftItem.toService_name_of_not_completed fun completed =>
        once (named ▸ completed.1), named]
  refine ⟨g, declared, rfl, filled, parameters, final, ?_⟩
  constructor
  · intro same
    by_contra neither
    obtain ⟨tagged, often⟩ := not_or.1 neither
    rw [final, if_pos (by omega)] at same
    have longer : g.name ++ " 1" ≠ g.name := by
      have apart := append_index_ne g.name "1"
      rwa [String.append_assoc] at apart
    exact GroupConfig.membersIn_ne_of_tagged (by simpa using tagged) filled longer same
  · rintro (byRules | once)
    · exact GroupConfig.membersIn_of_inclusion byRules interfaces _ _
    · rw [final, if_neg (by omega)]

def bondOf (first second : String) : Section :=
  [upPort "1" first (some "bond0"), upPort "2" second (some "bond0")]

theorem members_of_bond :
    ∃ s ∈ findServices [allNamed .descr] (bondOf "eth1" "eth2"), ∃ config,
      s.parameters.group = some config ∧
      s.name = "bond0" ∧
        config.membersIn s.name (bondOf "eth1" "eth2") = bondOf "eth1" "eth2" := by
  obtain ⟨s, emitted, config, group, named⟩ : ∃ s ∈
    findServices [allNamed .descr] (bondOf "eth1" "eth2"), ∃ config,
      s.parameters.group = some config ∧ s.name = "bond0" :=
    ⟨_, List.mem_cons_of_mem _ (List.mem_cons_of_mem _ List.mem_cons_self), _, rfl, rfl⟩
  obtain ⟨g, declared, rfl, -, -, -, found⟩ := membersIn_of_discovered_group emitted group
  have one : declaredGroups [allNamed .descr] ((bondOf "eth1" "eth2").map (·.attributes)) =
      [⟨"bond0", .ofTag .descr, .empty⟩] := rfl
  rw [one, List.mem_singleton] at declared
  subst declared
  have once : (allNames [allNamed .descr] (bondOf "eth1" "eth2")).count "bond0" ≤ 1 := by decide
  refine ⟨s, emitted, _, group, named, ?_⟩
  rw [found.2 (Or.inr once)]
  rfl

theorem bond_without_members :
    ∃ s ∈ findServices [allNamed .aliasName] (bondOf "bond0" "bond0"), ∃ config,
      s.parameters.group = some config ∧ s.name = "bond0 1" ∧
      config.membersIn "bond0" (bondOf "bond0" "bond0") = bondOf "bond0" "bond0" ∧
      config.membersIn s.name (bondOf "bond0" "bond0") = [] :=
  ⟨_, List.mem_cons_of_mem _ (List.mem_cons_of_mem _ List.mem_cons_self), _, rfl, rfl, rfl, rfl⟩

end IfaceMonitor
