import IfaceMonitor.Proofs.Check.EffectiveValues

namespace IfaceMonitor

namespace TrafficCheck

variable {c : TrafficCheck} {compare : Comparator} {direction : Direction} {traffic : AveragedRate}
  {config : Json} {rates : TrafficRates} {entries : List Entry}

theorem shareNote_of_zero {value s : Float} (zero : (s == 0.0) = true) :
    c.shareNote value (some s) = "" := by
  simp [shareNote, Option.filter_some, bne, zero]

theorem shareNote_of_nonzero {value s : Float} (nonzero : (s == 0.0) = false) :
    c.shareNote value (some s) = " (" ++ c.shareText value s ++ ")" := by
  simp [shareNote, Option.filter_some, bne, nonzero]

theorem shareNote_eq_empty_iff {value : Float} {speed : Option Float} :
    c.shareNote value speed = "" ↔ ∀ s, speed = some s → (s == 0.0) = true := by
  cases speed with
  | none => exact iff_of_true rfl nofun
  | some s =>
    simp only [Option.some.injEq, forall_eq']
    cases zero : s == 0.0 with
    | true => simp only [shareNote_of_zero zero]
    | false =>
      rw [shareNote_of_nonzero zero]
      refine iff_of_false (fun empty => ?_) Bool.false_ne_true
      have letters := congrArg String.toList empty
      simp [String.toList_append] at letters

def rateMetric (c : TrafficCheck) (direction : Direction) (traffic : AveragedRate) : Metric :=
  { Metric.plain direction.name traffic.rate with
    lowerBoundary := some 0.0
    upperBoundary := c.speeds.get direction }

def forwarded (c : TrafficCheck) (direction : Direction) (traffic : AveragedRate) (p : Prediction) :
    List Entry :=
  (if traffic.average.isSome then [.metric p.metric] else []) ++ p.referenceCurve.map .metric ++
    [.result { p.result with
        text := p.result.text ++ c.shareNote traffic.effective (c.speeds.get direction) },
      .metric (c.rateMetric direction traffic)]

theorem directionEntries_of_predictive (given : c.comparator = some compare)
    (predictive : c.levels direction = .predictive config) :
    c.directionEntries direction traffic = .ok (c.forwarded direction traffic
      (compare traffic.effective config (metricName direction traffic) (label direction traffic)
        c.unit.render)) := by
  simp only [directionEntries, judge, predictive, given, bind, Except.bind, pure, Except.pure,
    withShare_eq, forwarded, predictionEntries, rateMetric, Metric.plain, Option.map_none]

theorem directionEntries_infix (h : c.report rates = .ok entries)
    (checked : direction ∈ ReportedRate.directions c.checksTotal)
    (present : rates.traffic direction = some traffic) :
    ∃ block, c.directionEntries direction traffic = .ok block ∧ block <:+: entries := by
  obtain ⟨parts, each, rfl⟩ := report_eq_ok.1 h
  have measured : (direction, traffic) ∈ c.measuredDirections rates := by
    rw [measuredDirections_eq, List.mem_filterMap]
    exact ⟨direction, checked, by rw [present]; rfl⟩
  obtain ⟨i, bound, place⟩ := List.mem_iff_getElem.1 measured
  have reached : i < parts.length := each.length_eq ▸ bound
  have own := each.get bound reached
  simp only [List.get_eq_getElem, place] at own
  exact ⟨_, own, List.infix_of_mem_flatten (List.getElem_mem reached)⟩

end TrafficCheck

/-- What the comparator makes of a checked direction with predictive levels is forwarded in one
piece: its metric if there is an average, its reference curve, and its result. The share of the
speed is written behind the text of the result, so the text is unchanged if and only if the speed is
unknown or zero. Then comes the metric of the rate itself, without levels. -/
theorem predictions_forwarded (compare : Comparator) {settings : CheckSettings}
    {speeds : ReferenceSpeeds} {rates : TrafficRates} {direction : Direction} {config : Json}
    {traffic : AveragedRate} (checked : direction ∈ ReportedRate.directions settings.checksTotal)
    (predictive : mergedLevels settings.rulesInOrder speeds settings.unit direction =
      .predictive config)
    (present : rates.traffic direction = some traffic) :
    let c := Check.trafficCheck (some compare) settings speeds
    let p := compare traffic.effective config (TrafficCheck.metricName direction traffic)
      (TrafficCheck.label direction traffic) settings.unit.render
    ∃ entries note, c.report rates = .ok entries ∧
      (if traffic.average.isSome then [Entry.metric p.metric] else []) ++
        p.referenceCurve.map .metric ++
        [.result { p.result with text := p.result.text ++ note },
          .metric ⟨direction.name, traffic.rate, none, none, some 0.0, speeds.get direction⟩]
        <:+: entries ∧
      (note = "" ↔ ∀ s, speeds.get direction = some s → (s == 0.0) = true) ∧
      ∀ s, speeds.get direction = some s → (s == 0.0) = false →
        note = " (" ++ c.shareText traffic.effective s ++ ")" := by
  intro c p
  obtain ⟨entries, reported⟩ := TrafficCheck.report_succeeds (Or.inl rfl : c.Answers) rates
  obtain ⟨block, own, within⟩ := TrafficCheck.directionEntries_infix reported checked present
  rw [TrafficCheck.directionEntries_of_predictive rfl predictive] at own
  cases own
  refine ⟨entries, c.shareNote traffic.effective (speeds.get direction), reported, within,
    TrafficCheck.shareNote_eq_empty_iff, ?_⟩
  intro s known nonzero
  rw [known]
  exact TrafficCheck.shareNote_of_nonzero nonzero

def hundred : Comparator := fun value _ name label render =>
  { result := .summary .ok (label ++ ": " ++ render value ++ " (predicted: " ++ render 100.0 ++ ")")
    metric := .plain name value
    referenceCurve := [.plain ("predict_" ++ name) 100.0] }

def predictiveSettings : CheckSettings :=
  { CheckSettings.standard with traffic := [⟨.only .input, .predictive .null⟩] }

def predictiveCheck (speed : Option Float) : TrafficCheck :=
  Check.trafficCheck (some hundred) predictiveSettings ⟨speed, none, none⟩

def incoming : TrafficRates :=
  .ofCounters { PerCounter.missing with inOctets := some ⟨200.0, some ⟨200.0, 5⟩⟩ }

def predicted : Finding :=
  (hundred 200.0 .null "in_avg_5" "In average 5min" Quantity.bandwidth).result

theorem prediction_of_average :
    ∃ entries, (predictiveCheck none).report incoming = .ok entries ∧
      [.metric (.plain "in_avg_5" 200.0), .metric (.plain "predict_in_avg_5" 100.0),
        .result predicted,
        .metric ⟨"in", 200.0, none, none, some 0.0, none⟩] <:+: entries := by
  have merged : mergedLevels predictiveSettings.rulesInOrder ⟨none, none, none⟩ .byte .input =
      .predictive .null := rfl
  have present : incoming.traffic .input = some ⟨200.0, some ⟨200.0, 5⟩⟩ := rfl
  obtain ⟨entries, note, reported, within, unchanged, -⟩ :=
    predictions_forwarded hundred List.mem_cons_self merged present
  refine ⟨entries, reported, ?_⟩
  rw [unchanged.2 nofun] at within
  exact within

theorem prediction_at_known_speed :
    let shared : Finding :=
      { predicted with text := "In average 5min: 200 B/s (predicted: 100 B/s) (20.00%)" }
    (predictiveCheck (some 1000.0)).levels .input = .predictive .null ∧
      incoming.traffic .input = some ⟨200.0, some ⟨200.0, 5⟩⟩ ∧
      predicted.text = "In average 5min: 200 B/s (predicted: 100 B/s)" ∧
      ∃ entries, (predictiveCheck (some 1000.0)).report incoming = .ok entries ∧
        .result predicted ∉ entries ∧ .result shared ∈ entries := by
  intro shared
  have given : (predictiveCheck (some 1000.0)).comparator = some hundred := rfl
  have predictive : (predictiveCheck (some 1000.0)).levels .input = .predictive .null := rfl
  have text : predicted.text = "In average 5min: 200 B/s (predicted: 100 B/s)" := by decide +kernel
  have with_share : predicted.text ++
      (predictiveCheck (some 1000.0)).shareNote 200.0 (some 1000.0) =
        shared.text := by
    decide +kernel
  have own : (predictiveCheck (some 1000.0)).directionEntries .input
      ⟨200.0, some ⟨200.0, 5⟩⟩ =
        .ok [.metric (.plain "in_avg_5" 200.0), .metric (.plain "predict_in_avg_5" 100.0),
          .result shared, .metric ⟨"in", 200.0, none, none, some 0.0, some 1000.0⟩] := by
    rw [TrafficCheck.directionEntries_of_predictive given predictive, TrafficCheck.forwarded]
    exact congrArg (fun text => Except.ok [_, _, Entry.result ⟨_, text, _⟩, _]) with_share
  have apart : predicted ≠ shared := by
    intro same
    have texts := congrArg Finding.text same
    rw [text] at texts
    simp [shared] at texts
  refine ⟨predictive, rfl, text, _,
    TrafficCheck.report_eq_ok.2 ⟨[_], .cons own .nil, rfl⟩, ?_, ?_⟩
  · simpa using apart
  · simp

end IfaceMonitor
