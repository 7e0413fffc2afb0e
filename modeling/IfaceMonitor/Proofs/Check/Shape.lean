import IfaceMonitor.Proofs.Check.Matches
import IfaceMonitor.Proofs.Check.PacketMetrics

/-!
The shape of a report without a comparator. A report is put together from pieces, each of which is
told by the metric names that it may hold, in their order, by results before its metrics and by the
absence of the notice about missing rates (`Shaped`). The pieces join to the shape of a whole
report, and of what a check returns (`check_shape`).
-/

namespace IfaceMonitor

def metricsOf (entries : List Entry) : List Metric :=
  entries.filterMap Entry.metric?

def metricNames (entries : List Entry) : List String :=
  (metricsOf entries).map (·.name)

theorem metricsOf_results (results : List Finding) : metricsOf (results.map .result) = [] := by
  rw [metricsOf, List.filterMap_eq_nil_iff]
  intro e he
  obtain ⟨r, -, rfl⟩ := List.mem_map.1 he
  rfl

theorem metricNames_results (results : List Finding) : metricNames (results.map .result) = [] := by
  rw [metricNames, metricsOf_results, List.map_nil]

theorem metricNames_append (xs ys : List Entry) :
    metricNames (xs ++ ys) = metricNames xs ++ metricNames ys := by
  simp only [metricNames, metricsOf, List.filterMap_append, List.map_append]

/-- A metric stands right behind a result. Only the length of the queue may stand by itself. -/
def Introduced (entries : List Entry) : Prop :=
  ∀ before m after, entries = before ++ .metric m :: after →
    m.name = "outqlen" ∨ ∃ r, before.getLast? = some (.result r)

namespace Introduced

theorem of_results (results : List Finding) : Introduced (results.map .result) := by
  intro before m after h
  have member : Entry.metric m ∈ results.map .result :=
    h ▸ List.mem_append_right before List.mem_cons_self
  obtain ⟨r, -, ⟨⟩⟩ := List.mem_map.1 member

theorem queue (length : Float) : Introduced [.metric (.plain "outqlen" length)] := by
  intro before m after h
  have member : Entry.metric m ∈ [Entry.metric (.plain "outqlen" length)] :=
    h ▸ List.mem_append_right before List.mem_cons_self
  rw [List.mem_singleton, Entry.metric.injEq] at member
  exact Or.inl (by rw [member]; rfl)

theorem measured (r : Finding) (m : Metric) : Introduced [.result r, .metric m] := by
  intro before other after h
  rcases before with _ | ⟨first, _ | ⟨second, rest⟩⟩
  · cases h
  · cases h
    exact Or.inr ⟨r, rfl⟩
  · cases rest <;> cases h

theorem append {xs ys : List Entry} (first : Introduced xs) (second : Introduced ys) :
    Introduced (xs ++ ys) := by
  intro before m after h
  rcases List.append_eq_append_iff.1 h with ⟨between, rfl, rest⟩ | ⟨between, rfl, rest⟩
  · -- The metric stands in the second list, where a result goes before it.
    refine (second between m after rest).imp id fun ⟨r, last⟩ => ⟨r, ?_⟩
    rw [List.getLast?_append, last, Option.some_or]
  · cases between with
    | nil => exact (second [] m after rest.symm).imp id fun ⟨r, last⟩ => by cases last
    | cons e between =>
      cases rest
      exact first before m between rfl

end Introduced

def gapHeading : String :=
  "Could not compute rates for the following counter(s):\n"

def gapNotice (gaps : List (Counter × RateGap)) : Entry :=
  .result (.notice .ok
    (gapHeading ++ "\n".intercalate (gaps.map fun (counter, gap) =>
      counter.name ++ ": " ++ gap.message)))

def Entry.IsGapNotice (e : Entry) : Prop :=
  ∃ state rest, e = .result (.notice state (gapHeading ++ rest))

theorem gapEntries_eq (gaps : List (Counter × RateGap)) :
    Check.gapEntries gaps = if gaps = [] then [] else [gapNotice gaps] := by
  cases gaps <;> rfl

theorem not_gapNotice_of_summary {r : Finding} (summary : r.severity = .summary) :
    ¬(Entry.result r).IsGapNotice := by
  rintro ⟨state, rest, h⟩
  cases h
  cases summary

theorem not_gapNotice_of_title {title : String}
    (other : title.toList.head? ≠ gapHeading.toList.head?) (nonempty : title ≠ "")
    (state : State) (rest : String) :
    ¬(Entry.result (.notice state (title ++ rest))).IsGapNotice := by
  rintro ⟨_, _, h⟩
  simp only [Entry.result.injEq, Finding.notice, Finding.mk.injEq, and_true] at h
  have heads := congrArg (·.toList.head?) h.2
  have some_title : title.toList ≠ [] := fun h => nonempty (String.toList_eq_nil_iff.1 h)
  have some_heading : gapHeading.toList ≠ [] := by decide
  simp only [String.toList_append, List.head?_append_of_ne_nil _ some_title,
    List.head?_append_of_ne_nil _ some_heading] at heads
  exact other heads

/-- A piece of a report with metrics of the given names, each at most once and in this order, and no
notice about missing rates. -/
structure Shaped (entries : List Entry) (names : List String) : Prop where
  names : (metricNames entries).Sublist names
  introduced : Introduced entries
  complete : ∀ e ∈ entries, ¬e.IsGapNotice

namespace Shaped

theorem of_summaries {results : List Finding}
    (summaries : ∀ r ∈ results, r.severity = .summary) :
    Shaped (results.map .result) [] where
  names := by rw [metricNames_results]
  introduced := .of_results results
  complete e he := by
    obtain ⟨r, hr, rfl⟩ := List.mem_map.1 he
    exact not_gapNotice_of_summary (summaries r hr)

theorem nil : Shaped [] [] :=
  @of_summaries [] nofun

theorem measured {r : Finding} (complete : ¬(Entry.result r).IsGapNotice) (m : Metric) :
    Shaped [.result r, .metric m] [m.name] where
  names := .refl _
  introduced := .measured r m
  complete e he := by
    rcases List.mem_cons.1 he with rfl | he
    · exact complete
    · rw [List.mem_singleton.1 he]
      rintro ⟨state, rest, ⟨⟩⟩

theorem weaken {entries : List Entry} {names more : List String} (shaped : Shaped entries names)
    (h : names.Sublist more) :
    Shaped entries more :=
  { shaped with names := shaped.names.trans h }

theorem append {xs ys : List Entry} {names more : List String} (first : Shaped xs names)
    (second : Shaped ys more) :
    Shaped (xs ++ ys) (names ++ more) where
  names := by rw [metricNames_append]; exact first.names.append second.names
  introduced := first.introduced.append second.introduced
  complete e he := (List.mem_append.1 he).elim (first.complete e) (second.complete e)

theorem flatMap {α : Type} {xs : List α} {f : α → List Entry} {name : α → String}
    (each : ∀ x ∈ xs, Shaped (f x) [name x]) :
    Shaped (xs.flatMap f) (xs.map name) := by
  induction xs with
  | nil => exact nil
  | cons x rest ih =>
    rw [List.flatMap_cons, List.map_cons, ← List.singleton_append]
    exact (each x List.mem_cons_self).append (ih fun y hy => each y (List.mem_cons_of_mem x hy))

end Shaped

namespace Check

theorem caption_summary {a : Attributes} {isGroup : Bool} {item : String}
    {format : Option InfoFormat} {r : Finding} (h : a.caption isGroup item format = some r) :
    r.severity = .summary := by
  simp only [Attributes.caption] at h
  split at h
  · cases h
    rfl
  · split at h
    · cases h
    · cases h
      rfl

theorem statusResults_summary {a : Attributes} {mapping : Option StateMapping}
    {oper admin : Option (List LinkStatus)} {r : Finding}
    (h : r ∈ a.statusResults mapping oper admin) : r.severity = .summary := by
  rw [Attributes.statusResults] at h
  split at h
  · rw [List.mem_singleton.1 h]
    rfl
  · rcases List.mem_cons.1 h with rfl | h
    · rfl
    · obtain ⟨_, -, rfl⟩ := List.mem_map.1 h
      rfl

theorem speedResult_summary (a : Attributes) (target : Option Float) :
    (a.speedResult target).severity = .summary := by
  simp only [Attributes.speedResult]
  split <;> split <;> rfl

theorem stateEntries_shaped (item : String) (settings : CheckSettings) (a : Attributes)
    (members : MemberListing) (useDiscovered : Bool) :
    Shaped (stateEntries item settings a members useDiscovered) [] := by
  refine Shaped.of_summaries fun r hr => ?_
  simp only [List.mem_append, List.mem_singleton, Option.mem_toList, List.mem_map] at hr
  rcases hr with ((((h | h) | ⟨text, -, rfl⟩) | h) | h) | rfl
  · exact caption_summary h
  · exact statusResults_summary h
  · rfl
  · split at h
    · cases h
    · rw [List.mem_singleton.1 h]
      rfl
  · split at h
    · cases h
    · rw [List.mem_singleton.1 h]
      rfl
  · exact speedResult_summary a _

theorem queue_shaped (queue : Option Float) :
    Shaped (queue.toList.map fun length => Entry.metric (.plain "outqlen" length)) ["outqlen"] := by
  cases queue with
  | none => exact Shaped.nil.weaken (List.nil_sublist _)
  | some length =>
    exact {
      names := .refl _
      introduced := .queue length
      complete := fun e he => by
        rw [List.mem_singleton.1 he]
        rintro ⟨state, rest, ⟨⟩⟩ }

end Check

namespace TrafficCheck
variable {c : TrafficCheck}

theorem directionEntries_shaped {direction : Direction} {traffic : AveragedRate}
    {entries : List Entry} (alone : c.comparator = none)
    (h : c.directionEntries direction traffic = .ok entries) :
    Shaped entries [direction.name] := by
  obtain ⟨r, m, rfl, summary, named, -⟩ := directionEntries_alone alone h
  rw [← named]
  exact .measured (not_gapNotice_of_summary summary) m

def directionNames (total : Bool) : List String :=
  ["in", "out"] ++ if total then ["total"] else []

theorem measuredDirections_names (c : TrafficCheck) (rates : TrafficRates) :
    ((c.measuredDirections rates).map (·.1.name)).Sublist (directionNames c.checksTotal) := by
  cases hin : rates.counters.inOctets <;> cases hout : rates.counters.outOctets <;>
    cases htotal : rates.octetTotal <;>
    cases htotals : c.checksTotal <;>
      simp [measuredDirections, directionNames, Direction.name, hin, hout, htotal, htotals]

theorem report_shaped {rates : TrafficRates} {entries : List Entry} (alone : c.comparator = none)
    (h : c.report rates = .ok entries) : Shaped entries (directionNames c.checksTotal) := by
  refine Shaped.weaken ?_ (c.measuredDirections_names rates)
  rw [report_eq_ok] at h
  obtain ⟨parts, each, rfl⟩ := h
  generalize c.measuredDirections rates = directions at each
  induction each with
  | nil => exact .nil
  | cons first _ ih => exact (directionEntries_shaped alone first).append ih

end TrafficCheck

theorem assess_text (value : Float) (upper lower : Option Thresholds) (render : Float → String)
    (label : String) :
    ∃ rest, (assess value upper lower render label).2 = label ++ rest := by
  simp only [assess, String.append_assoc]
  split <;> exact ⟨_, rfl⟩

namespace Packets

theorem judge_text {direction : Direction} {c : Checked} {state : State} {text : String}
    {thresholds : Option Thresholds} (h : judge direction c = some (state, text, thresholds)) :
    ∃ rest, text = c.title ++ rest := by
  have titled : ∃ rest, label direction c = c.title ++ rest := by
    simp only [label, String.append_assoc]
    split <;> exact ⟨_, rfl⟩
  obtain ⟨named, titled⟩ := titled
  have starts (value : Float) (upper : Option Thresholds) (render : Float → String) :
      ∃ rest, (assess value upper none render (label direction c)).2 = c.title ++ rest := by
    obtain ⟨rest, assessed⟩ := assess_text value upper none render (label direction c)
    exact ⟨named ++ rest, by rw [assessed, titled, String.append_assoc]⟩
  simp only [judge] at h
  split at h
  · cases h
    exact starts _ _ _
  · cases h
    exact starts _ _ _
  · obtain ⟨reference, -, ⟨⟩⟩ := Option.map_eq_some_iff.1 h
    exact starts _ _ _

theorem not_gapNotice_of_kind (kind : PacketKind) (state : State) (rest : String) :
    ¬(Entry.result (.notice state (kind.title ++ rest))).IsGapNotice :=
  not_gapNotice_of_title (by cases kind <;> decide) (by cases kind <;> decide) state rest

theorem kind_shaped (direction : Direction) (settings : CheckSettings) (r : PacketRates)
    (kind : PacketKind) :
    Shaped ((checkedOf direction settings r kind).toList.flatMap (entries direction))
      [direction.name ++ kind.metric] := by
  cases found : checkedOf direction settings r kind with
  | none => exact Shaped.nil.weaken (List.nil_sublist _)
  | some c =>
    obtain ⟨rate, -, rfl⟩ := Option.map_eq_some_iff.1 found
    rw [Option.toList_some, List.flatMap_singleton, entries]
    split
    · exact Shaped.nil.weaken (List.nil_sublist _)
    · next judged =>
      obtain ⟨rest, rfl⟩ := judge_text judged
      exact Shaped.measured (not_gapNotice_of_kind kind _ rest) _

theorem nonUnicast_shaped (direction : Direction) (levels : Option LevelPair)
    (rate : Option AveragedRate) :
    Shaped (rate.toList.flatMap (nonUnicastEntries direction levels))
      [direction.name ++ "nucast"] := by
  cases rate with
  | none => exact Shaped.nil.weaken (List.nil_sublist _)
  | some r =>
    rw [Option.toList_some, List.flatMap_singleton, nonUnicastEntries]
    have titled := assess_text r.rate (levels.map LevelPair.thresholds) none Quantity.packetRate
      ("Non-unicast " ++ direction.name)
    generalize assess r.rate (levels.map LevelPair.thresholds) none Quantity.packetRate
      ("Non-unicast " ++ direction.name) = assessed at titled
    obtain ⟨state, _⟩ := assessed
    obtain ⟨rest, rfl⟩ := titled
    refine Shaped.measured ?_ _
    rw [String.append_assoc]
    exact not_gapNotice_of_title (by decide) (by decide) _ _

def directionNames (direction : Direction) : List String :=
  PacketKind.all.map (direction.name ++ ·.metric) ++ [direction.name ++ "nucast"]

theorem directionEntries_shaped (direction : Direction) (settings : CheckSettings)
    (r : PacketRates) :
    Shaped (directionEntries direction settings r) (directionNames direction) := by
  rw [directionEntries, checkedRates_eq, List.filterMap_eq_flatMap_toList, List.flatMap_assoc]
  exact (Shaped.flatMap fun kind _ => kind_shaped direction settings r kind).append
    (nonUnicast_shaped direction _ _)

theorem report_shaped (settings : CheckSettings) (rates : TrafficRates) :
    Shaped (report settings rates) (directionNames .input ++ directionNames .output) :=
  (directionEntries_shaped _ _ _).append (directionEntries_shaped _ _ _)

end Packets

def documentedMetrics : List String :=
  ["in", "out", "total", "inerr", "outerr", "indisc", "outdisc", "inmcast", "outmcast", "inbcast",
    "outbcast", "inucast", "outucast", "innucast", "outnucast", "outqlen"]

namespace Check
variable {item : String} {settings : CheckSettings} {interfaces : Section} {time : Float}
  {store after : SampleStore} {entries : List Entry}

def reportNames (settings : CheckSettings) : List String :=
  ["outqlen"] ++ TrafficCheck.directionNames settings.checksTotal ++
    (Packets.directionNames .input ++ Packets.directionNames .output)

theorem reportNames_nodup (settings : CheckSettings) : (reportNames settings).Nodup := by
  rw [reportNames]
  cases settings.checksTotal <;> decide

theorem reportNames_documented (settings : CheckSettings) :
    reportNames settings ⊆ documentedMetrics := by
  rw [reportNames]
  cases settings.checksTotal <;> decide

theorem total_of_mem_reportNames (h : "total" ∈ reportNames settings) :
    settings.totalTraffic.isSome = true := by
  rw [reportNames, CheckSettings.checksTotal] at h
  cases total : settings.totalTraffic.isSome with
  | true => rfl
  | false =>
    rw [total] at h
    revert h
    decide

theorem report_shape {m : Measured} {members : MemberListing} {useDiscovered : Bool}
    (h : report none item settings m members useDiscovered = .ok entries) :
    ∃ complete, Shaped complete (reportNames settings) ∧
      entries = complete ++ if m.attributes.operStatus.isDown ∨
        m.gaps = [] then [] else [gapNotice m.gaps] := by
  have states := stateEntries_shaped item settings m.attributes members useDiscovered
  cases down : m.attributes.operStatus.isDown with
  | true =>
    rw [report_of_down none item settings down] at h
    cases h
    exact ⟨_, states.weaken (List.nil_sublist _), by simp⟩
  | false =>
    obtain ⟨traffic, measured, rfl⟩ := (report_of_not_down down).1 h
    refine ⟨_, ((states.append (queue_shaped m.attributes.outQueue)).append
      (TrafficCheck.report_shaped rfl measured)).append
        (Packets.report_shaped settings m.rates), ?_⟩
    rw [gapEntries_eq]
    simp

inductive Reported (item : String) (settings : CheckSettings) (interfaces : Section) (time : Float)
    (store : SampleStore) (entries : List Entry) : Measured → Prop
  | single {m : Measured} (ungrouped : settings.discovered.group = none)
      (matched : m ∈ measuredEach time settings.averaging
        (interfaces.meantBy item settings.discovered.naming) store)
      (reported : Reports none item settings m entries) :
      Reported item settings interfaces time store entries m
  | group {config : GroupConfig} {listing : MemberListing} {useDiscovered : Bool}
      (grouped : settings.discovered.group = some config)
      (reported : report none item settings
        (measuredGroup item config settings interfaces time store) listing useDiscovered =
        .ok entries) :
      Reported item settings interfaces time store entries
        (measuredGroup item config settings interfaces time store)

theorem Reported.report_eq {m : Measured}
    (h : Reported item settings interfaces time store entries m) :
    ∃ listing useDiscovered, report none item settings m listing useDiscovered = .ok entries := by
  cases h with
  | single _ _ reported => exact ⟨_, _, reported⟩
  | group _ reported => exact ⟨_, _, reported⟩

theorem reported_or_nothing
    (h : checkItem none item settings interfaces time store = .ok (entries, after)) :
    (∃ m, Reported item settings interfaces time store entries m) ∨
      settings.discovered.group = none ∧
        interfaces.meantBy item settings.discovered.naming = [] ∧ entries = [] := by
  cases grouped : settings.discovered.group with
  | some config =>
    obtain ⟨-, listing, useDiscovered, reported⟩ := checkItem_group grouped h
    exact Or.inl ⟨_, .group grouped reported⟩
  | none =>
    obtain ⟨-, reports, reported, rfl, -⟩ := (checkItem_single grouped).1 h
    by_cases nothing : reports = []
    · subst nothing
      exact Or.inr ⟨rfl, reported.eq_nil_iff.1 rfl, rfl⟩
    · obtain ⟨m, matched, reported⟩ := reported.exists_of_mem (chosenEntries_mem nothing)
      exact Or.inl ⟨m, .single grouped matched reported⟩

end Check

/-- A check without a comparator that succeeds has each metric at most once, each with a documented
name and, unless it is the length of the queue, right behind a result. The total is there only if it
is configured. If what is reported is up and has gaps, the last entry is the notice with all of
them; no other entry is such a notice. -/
theorem check_shape {item : String} {settings : CheckSettings} {interfaces : Section} {time : Float}
    {store after : SampleStore} {entries : List Entry}
    (h : checkItem none item settings interfaces time store = .ok (entries, after)) :
    (metricNames entries).Nodup ∧ metricNames entries ⊆ documentedMetrics ∧
      ("total" ∈ metricNames entries → settings.totalTraffic.isSome = true) ∧
        Introduced entries ∧
      ((∃ m, Check.Reported item settings interfaces time store entries m ∧
          ∃ others, (∀ e ∈ others, ¬e.IsGapNotice) ∧
            entries = others ++ if m.attributes.operStatus.isDown ∨
              m.gaps = [] then [] else [gapNotice m.gaps]) ∨
        settings.discovered.group = none ∧
          interfaces.meantBy item settings.discovered.naming = [] ∧ entries = []) := by
  rcases Check.reported_or_nothing h with ⟨m, reported⟩ | ⟨ungrouped, nothing, rfl⟩
  · obtain ⟨listing, useDiscovered, computed⟩ := reported.report_eq
    obtain ⟨others, shaped, parts⟩ := Check.report_shape computed
    have notice : ∃ results : List Finding,
        (if m.attributes.operStatus.isDown ∨ m.gaps = [] then [] else [gapNotice m.gaps]) =
            results.map .result := by
      split
      · exact ⟨[], rfl⟩
      · exact ⟨[_], rfl⟩
    obtain ⟨results, notice⟩ := notice
    have names : metricNames entries = metricNames others := by
      rw [parts, notice, metricNames_append, metricNames_results, List.append_nil]
    refine ⟨?_, ?_, ?_, ?_, Or.inl ⟨m, reported, others, shaped.complete, parts⟩⟩
    · rw [names]
      exact shaped.names.nodup (Check.reportNames_nodup settings)
    · rw [names]
      exact List.Subset.trans shaped.names.subset (Check.reportNames_documented settings)
    · rw [names]
      exact fun total => Check.total_of_mem_reportNames (shaped.names.subset total)
    · rw [parts, notice]
      exact shaped.introduced.append (.of_results results)
  · exact ⟨.nil, List.nil_subset _, nofun, .of_results [],
      Or.inr ⟨ungrouped, nothing, rfl⟩⟩

theorem restartedPort_shape :
    ∃ entries after, checkItem none "eth0" .standard [restartedPort] 5.0 samplesBeforeRestart =
      .ok (entries, after) ∧
      metricNames entries = ["inmcast", "inbcast", "innucast"] ∧ (metricNames entries).Nodup ∧
        Introduced entries ∧
      ∃ others, (∀ e ∈ others, ¬e.IsGapNotice) ∧
        entries = others ++
          [gapNotice [(.inUcast,
          .failed (.counterOverflow "in_ucast.1.eth0..None" 5000.0 1000.0))]] := by
  obtain ⟨entries, after, checked, names⟩ : ∃ entries after,
      checkItem none "eth0" .standard [restartedPort] 5.0 samplesBeforeRestart =
        .ok (entries, after) ∧
        metricNames entries = ["inmcast", "inbcast", "innucast"] := ⟨_, _, rfl, rfl⟩
  obtain ⟨once, -, -, introduced,
    ⟨m, reported, others, complete, parts⟩ | ⟨-, nothing, -⟩⟩ := check_shape checked
  · cases reported with
    | single _ matched _ =>
      cases List.mem_singleton.1 matched
      exact ⟨entries, after, checked, names, once, introduced, others, complete, parts⟩
    | group grouped => cases grouped
  · cases nothing

end IfaceMonitor
