import IfaceMonitor.Check.Item
import IfaceMonitor.Proofs.Outcome

namespace IfaceMonitor

def EffectiveLevels.IsFixed (levels : EffectiveLevels) : Prop :=
  ∃ upper lower, levels = .fixed upper lower

theorem EffectiveLevels.IsFixed.override {old : EffectiveLevels} (fixed : old.IsFixed)
    (speed : Option Float) (unit : TrafficUnit) {spec : LevelSpec}
    (plain : spec.isPredictive = false) :
    (old.override speed unit spec).IsFixed := by
  obtain ⟨upper, lower, rfl⟩ := fixed
  cases spec with
  | predictive config => cases plain
  | fixed scale bound levels => cases bound <;> exact ⟨_, _, rfl⟩

theorem mergedLevels_isFixed {rules : List TrafficRule} (speeds : ReferenceSpeeds)
    (unit : TrafficUnit) (direction : Direction)
    (plain : ∀ rule ∈ rules, rule.levels.isPredictive = false) :
    (mergedLevels rules speeds unit direction).IsFixed := by
  unfold mergedLevels
  refine List.foldlRecOn _ _ ⟨none, none, rfl⟩ ?_
  intro old fixed rule hr
  exact fixed.override _ unit (plain rule (List.mem_of_mem_filter hr))

namespace TrafficCheck
variable {c : TrafficCheck}

def Answers (c : TrafficCheck) : Prop :=
  c.comparator.isSome = true ∨ ∀ direction, (c.levels direction).IsFixed

theorem judge_succeeds (answers : c.Answers) (direction : Direction) (traffic : AveragedRate) :
    ∃ parts, c.judge direction traffic = .ok parts := by
  unfold judge
  cases levels : c.levels direction with
  | fixed upper lower => exact ⟨_, rfl⟩
  | predictive config =>
    rcases answers with compared | fixed
    · obtain ⟨compare, comparator⟩ := Option.isSome_iff_exists.1 compared
      rw [comparator]
      exact ⟨_, rfl⟩
    · obtain ⟨upper, lower, settled⟩ := fixed direction
      rw [settled] at levels
      cases levels

theorem report_of_fixed (c : TrafficCheck) (fixed : ∀ direction, (c.levels direction).IsFixed)
    (comparator : Option Comparator) (rates : TrafficRates) :
    { c with comparator }.report rates = c.report rates := by
  have judged (direction : Direction) (traffic : AveragedRate) :
      { c with comparator }.judge direction traffic = c.judge direction traffic := by
    obtain ⟨upper, lower, levels⟩ := fixed direction
    simp only [judge, levels]
  have each (direction : Direction) (traffic : AveragedRate) :
      { c with comparator }.directionEntries direction traffic =
          c.directionEntries direction traffic := by
    unfold directionEntries
    rw [judged]
    rfl
  unfold report
  simp only [each]
  rfl

theorem report_succeeds (answers : c.Answers) (rates : TrafficRates) :
    ∃ entries, c.report rates = .ok entries := by
  have each : ∀ d ∈ c.measuredDirections rates, ∃ entries, c.directionEntries d.1 d.2 =
      .ok entries := by
    intro d _
    obtain ⟨⟨first, result, upper⟩, judged⟩ := judge_succeeds answers d.1 d.2
    rw [directionEntries, judged]
    exact ⟨_, rfl⟩
  obtain ⟨parts, reported⟩ := mapM_succeeds each
  rw [report, reported]
  exact ⟨_, rfl⟩

end TrafficCheck

namespace Check
variable {comparator : Option Comparator} {settings : CheckSettings}

theorem requireComparator_eq_ok :
    requireComparator comparator settings = .ok () ↔
      comparator.isSome = true ∨ ∀ rule ∈ settings.rulesInOrder,
        rule.levels.isPredictive = false := by
  unfold requireComparator
  by_cases compared : comparator.isSome = true
  · simp [compared]
  · rw [if_neg compared]
    cases found : settings.rulesInOrder.find? (·.levels.isPredictive) with
    | none => simpa [compared] using found
    | some rule =>
      have predictive : rule.levels.isPredictive = true := by simpa using List.find?_some found
      have member := List.mem_of_find?_eq_some found
      simp only [reduceCtorEq, compared, Bool.false_eq_true, false_or, false_iff]
      intro fixed
      rw [fixed rule member] at predictive
      cases predictive

theorem requireComparator_withDiscovered (comparator : Option Comparator) (settings : CheckSettings)
    (discovered : Discovered) :
    requireComparator comparator (settings.withDiscovered discovered) =
      requireComparator comparator settings := by
  simp only [requireComparator, CheckSettings.rulesInOrder, CheckSettings.withDiscovered]

theorem trafficCheck_answers (required : requireComparator comparator settings = .ok ())
    (speeds : ReferenceSpeeds) :
    (trafficCheck comparator settings speeds).Answers :=
  (requireComparator_eq_ok.1 required).imp id fun fixed direction =>
    mergedLevels_isFixed speeds settings.unit direction fixed

theorem report_of_fixed
    (fixed : ∀ rule ∈ settings.rulesInOrder, rule.levels.isPredictive = false)
    (comparator : Option Comparator) (item : String) (m : Measured) (members : MemberListing)
    (useDiscovered : Bool) :
    report comparator item settings m members useDiscovered =
      report none item settings m members useDiscovered := by
  have judged (speeds : ReferenceSpeeds) :
      (trafficCheck comparator settings speeds).report m.rates =
          (trafficCheck none settings speeds).report m.rates :=
    TrafficCheck.report_of_fixed (trafficCheck none settings speeds)
      (fun direction => mergedLevels_isFixed speeds settings.unit direction fixed)
        comparator m.rates
  simp only [report, judged]

theorem report_of_down (comparator : Option Comparator) (item : String) (settings : CheckSettings)
    {m : Measured} (down : m.attributes.operStatus.isDown = true) (members : MemberListing)
    (useDiscovered : Bool) :
    report comparator item settings m members useDiscovered =
      .ok (stateEntries item settings m.attributes members useDiscovered) := by
  rw [report]
  exact if_pos down

theorem report_of_not_down {item : String} {m : Measured}
    (up : m.attributes.operStatus.isDown = false) {members : MemberListing} {useDiscovered : Bool}
    {entries : List Entry} :
    report comparator item settings m members useDiscovered = .ok entries ↔
      ∃ traffic,
        (trafficCheck comparator settings
          (linkSpeeds m.attributes (settings.expectedSpeed useDiscovered) settings)).report
            m.rates = .ok traffic ∧
        entries = stateEntries item settings m.attributes members useDiscovered ++
          m.attributes.outQueue.toList.map (fun length => Entry.metric (.plain "outqlen" length)) ++
            traffic ++
          Packets.report settings m.rates ++ gapEntries m.gaps := by
  simp only [report, up, Bool.false_eq_true, if_false, bind_eq_ok, pure_eq_ok,
    eq_comm (b := entries)]

theorem report_succeeds (required : requireComparator comparator settings = .ok ()) (item : String)
    (m : Measured) (members : MemberListing) (useDiscovered : Bool) :
    ∃ entries, report comparator item settings m members useDiscovered = .ok entries := by
  cases down : m.attributes.operStatus.isDown with
  | true => exact ⟨_, report_of_down comparator item settings down members useDiscovered⟩
  | false =>
    obtain ⟨traffic, reported⟩ := TrafficCheck.report_succeeds
      (trafficCheck_answers required
        (linkSpeeds m.attributes (settings.expectedSpeed useDiscovered) settings)) m.rates
    exact ⟨_, (report_of_not_down down).2 ⟨traffic, reported, rfl⟩⟩

def samplesOfEach (time : Float) (averaging : Averaging) (found : List Interface)
    (store : SampleStore) : SampleStore :=
  found.foldl (fun store i => (measureUnlessDown i time averaging store).2) store

theorem checkMatches_succeeds (required : requireComparator comparator settings = .ok ())
    (item : String) (time : Float) (found : List Interface) (selection : Selection)
    (store : SampleStore) :
    ∃ chosen, checkMatches comparator item settings time found selection store =
      .ok (chosen, samplesOfEach time settings.averaging found store) := by
  induction found generalizing selection store with
  | nil => exact ⟨selection, rfl⟩
  | cons i rest ih =>
    obtain ⟨entries, reported⟩ := report_succeeds required item
      (measureUnlessDown i time settings.averaging store).1 [] i.attributes.node.isNone
    obtain ⟨chosen, others⟩ :=
      ih (selection.add entries) (measureUnlessDown i time settings.averaging store).2
    refine ⟨chosen, ?_⟩
    simp only [checkMatches, reported]
    exact others

def samplesAfter (item : String) (settings : CheckSettings) (interfaces : Section) (time : Float)
    (store : SampleStore) : SampleStore :=
  match settings.discovered.group with
  | some config =>
    (Measured.measureAll time settings.averaging (config.membersIn item interfaces) store).2
  | none =>
    samplesOfEach time settings.averaging (interfaces.meantBy item settings.discovered.naming) store

theorem checkItem_succeeds (required : requireComparator comparator settings = .ok ())
    (item : String) (interfaces : Section) (time : Float) (store : SampleStore) :
    ∃ entries, checkItem comparator item settings interfaces time store =
      .ok (entries, samplesAfter item settings interfaces time store) := by
  unfold checkItem samplesAfter
  rw [required]
  cases settings.discovered.group with
  | some config =>
    let members :=
      (Measured.measureAll time settings.averaging (config.membersIn item interfaces) store).1
    obtain ⟨entries, reported⟩ := report_succeeds required item (.ofMembers item members)
      (config.listing item (members.map (·.attributes)) interfaces)
        (interfaces.head?.all (·.attributes.node.isNone))
    refine ⟨entries, ?_⟩
    simp only [groupEntries, bind, Except.bind]
    rw [reported]
    rfl
  | none =>
    obtain ⟨chosen, checked⟩ := checkMatches_succeeds required item time
      (interfaces.meantBy item settings.discovered.naming) .none store
    refine ⟨chosen.entries, ?_⟩
    simp only [singleEntries, bind, Except.bind, checked]
    rfl

end Check

end IfaceMonitor
