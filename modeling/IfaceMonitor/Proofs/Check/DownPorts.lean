import IfaceMonitor.Proofs.Check.Shape
import IfaceMonitor.Proofs.Group.UpMembers

namespace IfaceMonitor

theorem Measured.measureAll_attributes (time : Float) (averaging : Averaging)
    (members : List Interface) (store : SampleStore) :
    (measureAll time averaging members store).1.map (·.attributes) =
      members.map (·.attributes) := by
  induction members generalizing store with
  | nil => rfl
  | cons i rest ih => exact congrArg (i.attributes :: ·) (ih _)

namespace Check
variable {comparator : Option Comparator} {item : String} {settings : CheckSettings}
  {interfaces : Section} {time : Float} {store after : SampleStore} {entries : List Entry}

theorem stateEntries_ne_nil (item : String) (settings : CheckSettings) (a : Attributes)
    (members : MemberListing) (useDiscovered : Bool) :
    stateEntries item settings a members useDiscovered ≠ [] := by
  simp [stateEntries]

theorem report_of_down_metrics {m : Measured} {members : MemberListing} {useDiscovered : Bool}
    (down : m.attributes.operStatus.isDown = true)
    (h : report comparator item settings m members useDiscovered = .ok entries) :
    metricsOf entries = [] ∧ entries ≠ [] := by
  rw [report_of_down comparator item settings down] at h
  cases h
  exact ⟨metricsOf_results _, stateEntries_ne_nil _ _ _ _ _⟩

theorem down_of_measuredEach {found : List Interface}
    (down : ∀ i ∈ found, i.attributes.operStatus.isDown = true) {averaging : Averaging}
    {m : Measured} (measured : m ∈ measuredEach time averaging found store) :
    m.attributes.operStatus.isDown = true := by
  have attributes := List.mem_map_of_mem (f := (·.attributes)) measured
  rw [measuredEach_attributes] at attributes
  obtain ⟨i, matched, same⟩ := List.mem_map.1 attributes
  rw [← same]
  exact down i matched

theorem checkItem_of_down_matches (ungrouped : settings.discovered.group = none)
    (down : ∀ i ∈ interfaces.meantBy item settings.discovered.naming,
      i.attributes.operStatus.isDown = true)
    (h : checkItem comparator item settings interfaces time store = .ok (entries, after)) :
    metricsOf entries = [] ∧ after = store ∧
      (entries = [] ↔ interfaces.meantBy item settings.discovered.naming = []) := by
  obtain ⟨-, reports, reported, rfl, rfl⟩ := (checkItem_single ungrouped).1 h
  have each : ∀ entries ∈ reports, metricsOf entries = [] ∧ entries ≠ [] :=
      fun entries chosen =>
    have ⟨_, measured, computed⟩ := reported.exists_of_mem chosen
    report_of_down_metrics (down_of_measuredEach down measured) computed
  rw [← reported.eq_nil_iff, samplesOfEach_of_down down]
  by_cases nothing : reports = []
  · subst nothing
    exact ⟨rfl, rfl, iff_of_true rfl rfl⟩
  · obtain ⟨no_metrics, some_entry⟩ := each _ (chosenEntries_mem nothing)
    exact ⟨no_metrics, rfl, iff_of_false some_entry nothing⟩

theorem checkItem_of_group_down {config : GroupConfig}
    (grouped : settings.discovered.group = some config)
    (none_up : ∀ i ∈ config.membersIn item interfaces, i.attributes.isUp = false)
    (h : checkItem comparator item settings interfaces time store = .ok (entries, after)) :
    metricsOf entries = [] := by
  obtain ⟨-, listing, useDiscovered, reported⟩ := checkItem_group grouped h
  refine (report_of_down_metrics ?_ reported).1
  have down : Group.operStatus ((config.membersIn item interfaces).map (·.attributes)) = .down :=
    Group.operStatus_eq_down_iff.2 (List.forall_mem_map.2 none_up)
  rw [← Measured.measureAll_attributes time settings.averaging _ store] at down
  exact decide_eq_true down

end Check

/-- Nothing is measured on ports that are down. If all matches of an item are, a check has no metric
and keeps the store, and it has entries exactly if something matched; if no member of a group is up,
the check of the group has no metric either. -/
theorem no_metrics_of_down_ports {comparator : Option Comparator} {item : String}
    {settings : CheckSettings} {interfaces : Section} {time : Float} {store after : SampleStore}
    {entries : List Entry}
    (h : checkItem comparator item settings interfaces time store = .ok (entries, after)) :
    (settings.discovered.group = none →
      (∀ i ∈ interfaces.meantBy item settings.discovered.naming,
        i.attributes.operStatus = .down) →
        metricsOf entries = [] ∧ after = store ∧
          (entries = [] ↔ interfaces.meantBy item settings.discovered.naming = [])) ∧
      ∀ config, settings.discovered.group = some config →
        (∀ i ∈ config.membersIn item interfaces, i.attributes.isUp = false) →
          metricsOf entries = [] :=
  ⟨fun ungrouped down =>
    Check.checkItem_of_down_matches ungrouped (fun i matched => decide_eq_true (down i matched)) h,
    fun _ grouped none_up => Check.checkItem_of_group_down grouped none_up h⟩

def unpluggedPort : Interface :=
  { restartedPort with attributes := { restartedPort.attributes with
    operStatus := .down, outQueue := some 3.0, group := some "bond0" } }

def dormantPort : Interface :=
  { unpluggedPort with attributes := { unpluggedPort.attributes with
    index := "2", operStatus := .dormant } }

def bondSettings : CheckSettings :=
  CheckSettings.standard.withDiscovered { Discovered.none with group := some (.ofTag .index) }

theorem no_metrics_of_unpluggedPort :
    (∃ entries, checkItem none "eth0" .standard [unpluggedPort] 5.0 samplesBeforeRestart =
        .ok (entries, samplesBeforeRestart) ∧ metricsOf entries = [] ∧ entries ≠ []) ∧
      ∃ entries after,
        checkItem none "bond0" bondSettings [unpluggedPort, dormantPort] 5.0 samplesBeforeRestart =
        .ok (entries, after) ∧ metricsOf entries = [] := by
  constructor
  · obtain ⟨entries, after, checked⟩ : ∃ entries after,
        checkItem none "eth0" .standard [unpluggedPort] 5.0 samplesBeforeRestart =
          .ok (entries, after) := ⟨_, _, rfl⟩
    have meant : Section.meantBy [unpluggedPort] "eth0" CheckSettings.standard.discovered.naming =
        [unpluggedPort] := rfl
    obtain ⟨no_metrics, rfl, empty⟩ := (no_metrics_of_down_ports checked).1 rfl (by
      rw [meant]
      intro i matched
      rw [List.mem_singleton.1 matched]
      rfl)
    refine ⟨entries, checked, no_metrics, fun nothing => ?_⟩
    rw [meant] at empty
    cases empty.1 nothing
  · obtain ⟨entries, after, checked⟩ : ∃ entries after,
        checkItem none "bond0" bondSettings [unpluggedPort, dormantPort] 5.0 samplesBeforeRestart =
            .ok (entries, after) :=
      ⟨_, _, rfl⟩
    exact ⟨entries, after, checked, (no_metrics_of_down_ports checked).2 _ rfl (by decide)⟩

end IfaceMonitor
