import IfaceMonitor.Proofs.Check.Success

namespace IfaceMonitor

def valuesOf (name : String) (entries : List Entry) : List Float :=
  ((entries.filterMap Entry.metric?).filter (·.name == name)).map (·.value)

theorem valuesOf_append (name : String) (xs ys : List Entry) :
    valuesOf name (xs ++ ys) = valuesOf name xs ++ valuesOf name ys := by
  simp only [valuesOf, List.filterMap_append, List.filter_append, List.map_append]

theorem valuesOf_eq_nil {name : String} {entries : List Entry}
    (h : ∀ m, .metric m ∈ entries → m.name ≠ name) : valuesOf name entries = [] := by
  rw [valuesOf, List.map_eq_nil_iff, List.filter_eq_nil_iff]
  intro m hm
  obtain ⟨e, he, hem⟩ := List.mem_filterMap.1 hm
  cases e with
  | result r => cases hem
  | metric m' =>
    cases hem
    simpa using h m he

theorem valuesOf_results (name : String) (results : List Finding) :
    valuesOf name (results.map .result) = [] :=
  valuesOf_eq_nil fun m hm => by simp at hm

def TrafficRates.traffic (rates : TrafficRates) : Direction → Option AveragedRate
  | .input => rates.counters.inOctets
  | .output => rates.counters.outOctets
  | .total => rates.octetTotal

namespace TrafficCheck
variable {c : TrafficCheck}

theorem judge_alone {direction : Direction} {traffic : AveragedRate} {first : List Entry}
    {result : Finding} {upper : Option Thresholds} (alone : c.comparator = none)
    (h : c.judge direction traffic = .ok (first, result, upper)) :
    first = [] ∧ result.severity = .summary := by
  rw [judge] at h
  split at h
  · cases h
    exact ⟨rfl, rfl⟩
  · rw [alone] at h
    cases h

theorem withShare_severity (c : TrafficCheck) (value : Float) (speed : Option Float)
    (result : Finding) :
    (c.withShare value speed result).severity = result.severity := by
  rw [withShare]
  split <;> rfl

theorem directionEntries_alone {direction : Direction} {traffic : AveragedRate}
    {entries : List Entry} (alone : c.comparator = none)
    (h : c.directionEntries direction traffic = .ok entries) :
    ∃ r m, entries = [.result r, .metric m] ∧ r.severity = .summary ∧
      m.name = direction.name ∧ m.value = traffic.rate := by
  simp only [directionEntries, bind_eq_ok, pure_eq_ok] at h
  obtain ⟨⟨first, result, upper⟩, judged, rfl⟩ := h
  obtain ⟨rfl, summary⟩ := judge_alone alone judged
  exact ⟨_, _, rfl, (c.withShare_severity _ _ result).trans summary, rfl, rfl⟩

theorem directionEntries_valuesOf {direction : Direction} {traffic : AveragedRate}
    {entries : List Entry} (alone : c.comparator = none)
    (h : c.directionEntries direction traffic = .ok entries) (name : String) :
    valuesOf name entries = if direction.name = name then [traffic.rate] else [] := by
  obtain ⟨r, m, rfl, -, named, value⟩ := directionEntries_alone alone h
  by_cases same : direction.name = name <;>
    simp [valuesOf, List.filterMap_cons, Entry.metric?, named, value, same]

theorem measuredDirections_filter (c : TrafficCheck) (rates : TrafficRates)
    (direction : Direction) :
    ((c.measuredDirections rates).filter (·.1.name == direction.name)).map (·.2.rate) =
      if direction = .total ∧
        c.checksTotal = false then [] else ((rates.traffic direction).map (·.rate)).toList := by
  cases hin : rates.counters.inOctets <;> cases hout : rates.counters.outOctets <;>
    cases htotal : rates.octetTotal <;>
    cases htotals : c.checksTotal <;> cases direction <;>
    simp [measuredDirections, TrafficRates.traffic, hin, hout, htotal, htotals, Direction.name]

theorem report_eq_ok {rates : TrafficRates} {entries : List Entry} :
    c.report rates = .ok entries ↔
      ∃ parts, List.Forall₂ (fun d part => c.directionEntries d.1 d.2 = .ok part)
        (c.measuredDirections rates) parts ∧
        entries = parts.flatten := by
  simp only [report, bind_eq_ok, pure_eq_ok, mapM_eq_ok, eq_comm (b := entries)]

theorem report_metrics {rates : TrafficRates} {entries : List Entry} (alone : c.comparator = none)
    (h : c.report rates = .ok entries) (name : String) :
    valuesOf name entries =
      ((c.measuredDirections rates).filter (·.1.name == name)).map (·.2.rate) := by
  rw [report_eq_ok] at h
  obtain ⟨parts, hparts, rfl⟩ := h
  generalize c.measuredDirections rates = directions at hparts
  induction hparts with
  | nil => rfl
  | @cons d part ds parts hd _ ih =>
    rw [List.flatten_cons, valuesOf_append, ih, directionEntries_valuesOf alone hd]
    by_cases same : d.1.name = name <;> simp [same]

theorem report_valuesOf {rates : TrafficRates} {entries : List Entry} (alone : c.comparator = none)
    (h : c.report rates = .ok entries) (direction : Direction) :
    valuesOf direction.name entries =
      if direction = .total ∧
        c.checksTotal = false then [] else ((rates.traffic direction).map (·.rate)).toList := by
  rw [report_metrics alone h, measuredDirections_filter]

theorem report_valuesOf_of_ne {rates : TrafficRates} {entries : List Entry}
    (alone : c.comparator = none) (h : c.report rates = .ok entries) {name : String}
    (other : ∀ direction : Direction, direction.name ≠ name) :
    valuesOf name entries = [] := by
  rw [report_metrics alone h,
    List.filter_eq_nil_iff.2 fun d _ => by simpa using other d.1, List.map_nil]

end TrafficCheck

namespace Packets

theorem mem_entries {direction : Direction} {c : Checked} {m : Metric}
    (h : .metric m ∈ entries direction c) :
    m.name = direction.name ++ c.metric := by
  rw [entries] at h
  split at h
  · cases h
  · simp only [List.mem_cons, List.not_mem_nil, or_false, reduceCtorEq, false_or,
      Entry.metric.injEq] at h
    rw [h]
    rfl

def kinds : List String :=
  ["err", "disc", "mcast", "bcast", "ucast", "nucast"]

theorem checkedRates_metric {direction : Direction} {settings : CheckSettings} {r : PacketRates}
    {c : Checked} (h : c ∈ checkedRates direction settings r) : c.metric ∈ kinds := by
  simp only [checkedRates, List.mem_filterMap, id_eq, List.mem_cons, List.not_mem_nil, or_false,
    exists_eq_right] at h
  rcases h with h | h | h | h | h <;>
    · obtain ⟨rate, -, rfl⟩ := Option.map_eq_some_iff.1 h.symm
      simp [kinds]

theorem directionEntries_name {direction : Direction} {settings : CheckSettings} {r : PacketRates}
    {m : Metric} (h : .metric m ∈ directionEntries direction settings r) :
    ∃ kind ∈ kinds, m.name = direction.name ++ kind := by
  rcases List.mem_append.1 h with h | h
  · obtain ⟨c, hc, hm⟩ := List.mem_flatMap.1 h
    exact ⟨c.metric, checkedRates_metric hc, mem_entries hm⟩
  · obtain ⟨rate, -, hm⟩ := List.mem_flatMap.1 h
    simp only [nonUnicastEntries, List.mem_cons, List.not_mem_nil, or_false, reduceCtorEq, false_or,
      Entry.metric.injEq] at hm
    exact ⟨"nucast", by simp [kinds], by rw [hm]; rfl⟩

theorem report_name {settings : CheckSettings} {rates : TrafficRates} {m : Metric}
    (h : .metric m ∈ report settings rates) :
    ∃ d : Direction, ∃ kind ∈ kinds, m.name = d.name ++ kind := by
  rcases List.mem_append.1 h with h | h
  · exact ⟨.input, directionEntries_name h⟩
  · exact ⟨.output, directionEntries_name h⟩

theorem report_valuesOf (settings : CheckSettings) (rates : TrafficRates) (direction : Direction) :
    valuesOf direction.name (report settings rates) = [] := by
  apply valuesOf_eq_nil
  intro m hm same
  obtain ⟨d, kind, hkind, hname⟩ := report_name hm
  have clash : ∀ d direction :
      Direction, ∀ kind ∈ kinds, d.name ++ kind ≠ direction.name := by
    intro d direction
    cases d <;> cases direction <;> decide
  exact clash d direction kind hkind (hname.symm.trans same)

end Packets

namespace Check

theorem gapEntries_valuesOf (name : String) (gaps : List (Counter × RateGap)) :
    valuesOf name (gapEntries gaps) = [] := by
  rw [gapEntries]
  split
  · rfl
  · rfl

theorem queue_valuesOf {name : String} (other : "outqlen" ≠ name) (queue : Option Float) :
    valuesOf name (queue.toList.map fun length => Entry.metric (.plain "outqlen" length)) = [] := by
  apply valuesOf_eq_nil
  intro m hm same
  simp only [List.mem_map, Option.mem_toList, Entry.metric.injEq] at hm
  obtain ⟨length, -, rfl⟩ := hm
  exact other same

theorem report_valuesOf {item : String} {settings : CheckSettings} {m : Measured}
    {members : MemberListing} {useDiscovered : Bool} {entries : List Entry}
    (h : report none item settings m members useDiscovered = .ok entries) (direction : Direction) :
    valuesOf direction.name entries =
      if m.attributes.operStatus.isDown then []
      else if direction = .total ∧ settings.checksTotal = false then []
      else ((m.rates.traffic direction).map (·.rate)).toList := by
  cases down : m.attributes.operStatus.isDown with
  | true =>
    rw [report_of_down none item settings down] at h
    cases h
    rw [if_pos rfl]
    exact valuesOf_results _ _
  | false =>
    obtain ⟨traffic, htraffic, rfl⟩ := (report_of_not_down down).1 h
    have states : valuesOf direction.name
        (stateEntries item settings m.attributes members useDiscovered) = [] :=
      valuesOf_results _ _
    have queue : "outqlen" ≠ direction.name := by cases direction <;> decide
    simp only [valuesOf_append, states, queue_valuesOf queue, gapEntries_valuesOf,
      Packets.report_valuesOf, TrafficCheck.report_valuesOf rfl htraffic, List.nil_append,
      List.append_nil]
    rfl

end Check

end IfaceMonitor
