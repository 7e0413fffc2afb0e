import IfaceMonitor.Proofs.Discovery.Drafts

namespace IfaceMonitor

namespace Discovery

/-- How an item and a later one come to have the same name. -/
inductive Clash (names : List String) (d e : DraftItem) : Prop
  | namesake (single : d.parameters.group = none) (group : e.parameters.group.isSome = true)
      (same : d.name = e.name) (once : names.count d.name ≤ 1)
  | number (single : d.parameters.group = none) (same : d.name = e.name)
      (often : 1 < names.count d.name) (alike : d.isIndex = e.isIndex)
      (equal : sameNumber d.index e.index = true)
  | first (completed : d.Completed names) (kept : ¬e.Completed names)
      (equal : d.name ++ " " ++ shownIndex d.index = e.name)
  | second (kept : ¬d.Completed names) (completed : e.Completed names)
      (equal : d.name = e.name ++ " " ++ shownIndex e.index)
  | both (different : d.name ≠ e.name) (completed : d.Completed names) (alike : e.Completed names)
      (equal : d.name ++ " " ++ shownIndex d.index = e.name ++ " " ++ shownIndex e.index)

def Apart (names : List String) (d e : DraftItem) : Prop :=
  d.name = e.name →
    d.parameters.group = none ∧
      (d.index ≠ e.index ∧ 1 < names.count d.name ∨
        e.parameters.group.isSome = true ∧ e.index = "1" ∧ e.isIndex = false)

theorem drafts_pairwise (rules : List DiscoveryRule) (interfaces : Section) :
    (drafts rules interfaces).Pairwise (Apart (allNames rules interfaces)) := by
  refine List.pairwise_append.2 ⟨?_, ?_, ?_⟩
  · refine (singleDrafts_pairwise rules interfaces).imp_of_mem fun {d e} member _ apart same => ?_
    exact ⟨ungrouped_of_mem_singleDrafts member, Or.inl ⟨apart.1, apart.2 same⟩⟩
  · refine (groupDrafts_pairwise rules interfaces).imp fun different same => ?_
    exact absurd same different
  · intro d single e grouped _
    obtain ⟨g, -, draft⟩ := mem_groupDrafts.1 grouped
    obtain ⟨-, -, index, noIndex, parameters⟩ := groupDraft?_eq_some draft
    refine ⟨ungrouped_of_mem_singleDrafts single, Or.inr ⟨?_, index, noIndex⟩⟩
    rw [parameters]
    rfl

section TwoItems
variable {names : List String} {d e : DraftItem}

theorem Clash.same_name (clash : Clash names d e) :
    (d.toService names).name = (e.toService names).name := by
  cases clash with
  | namesake _ _ same once =>
    have keptD : ¬d.Completed names := fun completed => absurd completed.1 (by omega)
    have keptE : ¬e.Completed names := fun completed => absurd (same ▸ completed.1) (by omega)
    rw [DraftItem.toService_name_of_not_completed keptD,
      DraftItem.toService_name_of_not_completed keptE, same]
  | number _ same often alike equal =>
    by_cases completed : d.Completed names
    · have completedE : e.Completed names := ⟨same ▸ often, alike.symm.trans completed.2⟩
      rw [DraftItem.toService_name_of_completed completed,
        DraftItem.toService_name_of_completed completedE, same, shownIndex_eq_iff.2 (Or.inr equal)]
    · have keptE : ¬e.Completed names := fun other => completed ⟨often, alike.trans other.2⟩
      rw [DraftItem.toService_name_of_not_completed completed,
        DraftItem.toService_name_of_not_completed keptE, same]
  | first completed kept equal =>
    rw [DraftItem.toService_name_of_completed completed,
      DraftItem.toService_name_of_not_completed kept, equal]
  | second kept completed equal =>
    rw [DraftItem.toService_name_of_not_completed kept,
      DraftItem.toService_name_of_completed completed, equal]
  | both _ completed alike equal =>
    rw [DraftItem.toService_name_of_completed completed,
      DraftItem.toService_name_of_completed alike, equal]

theorem clash_of_completed (apart : Apart names d e) (completed : d.Completed names)
    (alike : e.Completed names)
    (equal : d.name ++ " " ++ shownIndex d.index = e.name ++ " " ++ shownIndex e.index) :
    Clash names d e := by
  by_cases same : d.name = e.name
  · obtain ⟨single, others⟩ := apart same
    rw [same, String.append_right_inj, shownIndex_eq_iff] at equal
    refine Clash.number single same completed.1 (completed.2.trans alike.2.symm) ?_
    rcases equal with equal | equal
    · rcases others with ⟨different, -⟩ | ⟨-, one, -⟩
      · exact absurd equal different
      · rw [equal, one]
        rfl
    · exact equal
  · exact Clash.both same completed alike equal

theorem clash_of_kept (apart : Apart names d e)
    (told : d.isIndex = true → sameNumber d.name d.index = true)
    (toldE : e.isIndex = true → sameNumber e.name e.index = true) (kept : ¬d.Completed names)
    (keptE : ¬e.Completed names) (same : d.name = e.name) : Clash names d e := by
  obtain ⟨single, others⟩ := apart same
  by_cases often : 1 < names.count d.name
  · have isIndex : d.isIndex = true := by
      by_contra no
      exact kept ⟨often, by simpa using no⟩
    have isIndexE : e.isIndex = true := by
      by_contra no
      exact keptE ⟨same ▸ often, by simpa using no⟩
    obtain ⟨m, nameD, indexD⟩ := sameNumber_iff.1 (told isIndex)
    obtain ⟨n, nameE, indexE⟩ := sameNumber_iff.1 (toldE isIndexE)
    have equal : m = n := by
      rw [same, nameE] at nameD
      exact (Option.some.inj nameD).symm
    subst equal
    exact Clash.number single same often (isIndex.trans isIndexE.symm)
      (sameNumber_iff.2 ⟨m, indexD, indexE⟩)
  · rcases others with ⟨-, counted⟩ | ⟨group, -, -⟩
    · exact absurd counted often
    · exact Clash.namesake single group same (by omega)

theorem toService_name_eq_iff (apart : Apart names d e)
    (told : d.isIndex = true → sameNumber d.name d.index = true)
    (toldE : e.isIndex = true → sameNumber e.name e.index = true) :
    (d.toService names).name = (e.toService names).name ↔ Clash names d e := by
  refine ⟨fun equal => ?_, Clash.same_name⟩
  by_cases completed : d.Completed names
  · rw [DraftItem.toService_name_of_completed completed] at equal
    by_cases alike : e.Completed names
    · rw [DraftItem.toService_name_of_completed alike] at equal
      exact clash_of_completed apart completed alike equal
    · rw [DraftItem.toService_name_of_not_completed alike] at equal
      exact Clash.first completed alike equal
  · rw [DraftItem.toService_name_of_not_completed completed] at equal
    by_cases alike : e.Completed names
    · rw [DraftItem.toService_name_of_completed alike] at equal
      exact Clash.second completed alike equal
    · rw [DraftItem.toService_name_of_not_completed alike] at equal
      exact clash_of_kept apart told toldE completed alike equal

end TwoItems

theorem nodup_names_iff (rules : List DiscoveryRule) (interfaces : Section) :
    ((findServices rules interfaces).map (·.name)).Nodup ↔
      (drafts rules interfaces).Pairwise fun d e => ¬Clash (allNames rules interfaces) d e := by
  have told : ∀ d ∈ drafts rules interfaces, d.isIndex = true →
      sameNumber d.name d.index = true :=
    fun d member => isIndex_of_mem_drafts member
  have same : (drafts rules interfaces).Pairwise fun d e =>
      ((d.toService (allNames rules interfaces)).name =
        (e.toService (allNames rules interfaces)).name ↔
        Clash (allNames rules interfaces) d e) :=
    (drafts_pairwise rules interfaces).imp_of_mem fun {d e} memberD memberE apart =>
      toService_name_eq_iff apart (told d memberD) (told e memberE)
  rw [findServices_eq_map, List.map_map, List.nodup_iff_pairwise_ne, List.pairwise_map]
  constructor
  · intro different
    exact (different.and same).imp fun h clash => h.1 (h.2.2 clash)
  · intro clear
    exact (clear.and same).imp fun h equal => h.1 (h.2.1 equal)

theorem names_of_described_bond :
    (findServices [allNamed .descr] [upPort "2" "bond0" (some "bond0")]).map (·.name) =
      ["bond0", "bond0"] ∧
      ¬((findServices [allNamed .descr] [upPort "2" "bond0" (some "bond0")]).map
        (·.name)).Nodup := by
  have names : (findServices [allNamed .descr] [upPort "2" "bond0" (some "bond0")]).map (·.name) =
      ["bond0", "bond0"] := rfl
  rw [names]
  exact ⟨rfl, by decide⟩

end Discovery

end IfaceMonitor
