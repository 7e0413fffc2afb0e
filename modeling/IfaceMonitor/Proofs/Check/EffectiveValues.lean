import IfaceMonitor.Proofs.Check.Shape

namespace IfaceMonitor

/-- The entries are results with a metric behind each of them, a pair for each thing that is
reported. -/
inductive InPairs {α : Type} (shows : α → Finding → Metric → Prop) :
    List α → List Entry → Prop
  | nil : InPairs shows [] []
  | cons {x : α} {r : Finding} {m : Metric} {xs : List α} {rest : List Entry}
      (first : shows x r m) (others : InPairs shows xs rest) :
      InPairs shows (x :: xs) (.result r :: .metric m :: rest)

namespace InPairs
variable {α : Type} {shows : α → Finding → Metric → Prop}

theorem single {x : α} {r : Finding} {m : Metric} (h : shows x r m) :
    InPairs shows [x] [.result r, .metric m] :=
  .cons h .nil

theorem append {xs ys : List α} {entries others : List Entry} (h : InPairs shows xs entries)
    (h' : InPairs shows ys others) : InPairs shows (xs ++ ys) (entries ++ others) := by
  induction h with
  | nil => exact h'
  | cons first _ ih => exact .cons first ih

theorem flatMap {β : Type} {xs : List β} {f : β → List α} {g : β → List Entry}
    (each : ∀ x ∈ xs, InPairs shows (f x) (g x)) :
    InPairs shows (xs.flatMap f) (xs.flatMap g) := by
  induction xs with
  | nil => exact .nil
  | cons x rest ih =>
    rw [List.flatMap_cons, List.flatMap_cons]
    exact (each x List.mem_cons_self).append (ih fun y hy => each y (List.mem_cons_of_mem x hy))

theorem iff_forall {other : α → Finding → Metric → Prop} {P : α → Prop}
    (exact : ∀ x r m, shows x r m → (other x r m ↔ P x)) {xs : List α} {entries : List Entry}
    (h : InPairs shows xs entries) : InPairs other xs entries ↔ ∀ x ∈ xs, P x := by
  induction h with
  | nil => exact iff_of_true .nil nofun
  | @cons x r m xs rest first _ ih =>
    rw [List.forall_mem_cons, ← ih, ← exact x r m first]
    constructor
    · rintro (_ | ⟨own, others⟩)
      exact ⟨own, others⟩
    · exact fun ⟨own, others⟩ => .cons own others

end InPairs

inductive ReportedRate
  | traffic (direction : Direction)
  | packets (direction : Direction) (kind : PacketKind)
  | nonUnicast (direction : Direction)

structure Gauge where
  reference : Option Float
  upper : Option Thresholds
  lower : Option Thresholds
  render : Float → String

namespace Gauge

def measured (g : Gauge) (value : Float) : Float :=
  match g.reference with
  | some reference => Packets.share value reference
  | none => value

def judge (g : Gauge) (value : Float) (label : String) : State × String :=
  assess (g.measured value) g.upper g.lower g.render label

end Gauge

def AveragedRate.label (rate : AveragedRate) (title : String) : String :=
  match rate.average with
  | some a => title ++ " average " ++ toString a.backlog ++ "min"
  | none => title

namespace ReportedRate

def title : ReportedRate → String
  | traffic direction => direction.heading
  | packets direction kind => kind.title ++ " " ++ direction.name
  | nonUnicast direction => "Non-unicast " ++ direction.name

def metric : ReportedRate → String
  | traffic direction => direction.name
  | packets direction kind => direction.name ++ kind.metric
  | nonUnicast direction => direction.name ++ "nucast"

def rate? (rates : TrafficRates) : ReportedRate → Option AveragedRate
  | traffic direction => rates.traffic direction
  | packets direction kind => (Packets.ratesIn rates direction).get kind
  | nonUnicast direction => (Packets.ratesIn rates direction).nonUnicast

def gauge? (c : TrafficCheck) (settings : CheckSettings) (rates : TrafficRates) :
    ReportedRate → Option Gauge
  | traffic direction =>
    match c.levels direction with
    | .fixed upper lower => some ⟨none, upper, lower, c.unit.render⟩
    | .predictive _ => none
  | packets direction kind =>
    match (settings.packetLimits kind).bind (·.get direction) with
    | none => some ⟨none, none, none, Quantity.packetRate⟩
    | some ⟨.absolute, levels⟩ =>
      some ⟨none, some levels.thresholds, none, Quantity.packetRate⟩
    | some ⟨.percent, levels⟩ =>
      ((Packets.ratesIn rates direction).reference kind).map fun reference =>
        ⟨some reference, some levels.thresholds, none, Quantity.packetShare⟩
  | nonUnicast _ =>
    some ⟨none, settings.nonUnicast.map LevelPair.thresholds, none, Quantity.packetRate⟩

def directions (total : Bool) : List Direction :=
  [.input, .output] ++ if total then [.total] else []

def ofPackets : List ReportedRate :=
  [Direction.input, .output].flatMap fun direction =>
    PacketKind.all.map (packets direction) ++ [nonUnicast direction]

def isReported (c : TrafficCheck) (settings : CheckSettings) (rates : TrafficRates)
    (n : ReportedRate) : Bool :=
  (n.rate? rates).isSome && (n.gauge? c settings rates).isSome

def reported (c : TrafficCheck) (settings : CheckSettings) (rates : TrafficRates) :
    List ReportedRate :=
  ((directions c.checksTotal).map traffic ++ ofPackets).filter (·.isReported c settings rates)

/-- The result judges the effective value of a rate and names its backlog, and the metric shows the
rate itself. -/
structure ShownAs (n : ReportedRate) (g : Gauge) (rate : AveragedRate) (r : Finding) (m : Metric) :
    Prop where
  state : r.state = (g.judge rate.effective (rate.label n.title)).1
  text : ∃ rest, r.text = (g.judge rate.effective (rate.label n.title)).2 ++ rest
  name : m.name = n.metric
  value : m.value = rate.rate

def judged (rate : AveragedRate) : ReportedRate → AveragedRate
  | nonUnicast _ => { rate with average := none }
  | _ => rate

theorem judged_eq_self {n : ReportedRate} {rate : AveragedRate} :
    n.judged rate = rate ↔ ∀ direction, n = nonUnicast direction → rate.average = none := by
  obtain ⟨_, average⟩ := rate
  cases n <;> simp [judged, eq_comm]

theorem ShownAs.labelled {n : ReportedRate} {g : Gauge} {rate : AveragedRate} {r : Finding}
    {m : Metric} (h : n.ShownAs g rate r m) :
    ∃ rest, r.text = rate.label n.title ++ (": " ++ rest) := by
  have start : ∃ rest, (g.judge rate.effective (rate.label n.title)).2 =
      rate.label n.title ++ (": " ++ rest) := by
    simp only [Gauge.judge, assess, String.append_assoc]
    split <;> exact ⟨_, rfl⟩
  obtain ⟨after, text⟩ := h.text
  obtain ⟨shown, start⟩ := start
  exact ⟨shown ++ after, by rw [text, start, String.append_assoc, String.append_assoc]⟩

theorem shownAs_iff {n : ReportedRate} {g : Gauge} {rate : AveragedRate} {r : Finding} {m : Metric}
    (h : n.ShownAs g (n.judged rate) r m) : n.ShownAs g rate r m ↔ n.judged rate = rate := by
  constructor
  · intro named
    rw [judged_eq_self]
    rintro direction rfl
    cases average : rate.average with
    | none => rfl
    | some a =>
      obtain ⟨shown, plain⟩ := h.labelled
      obtain ⟨shown', averaged⟩ := named.labelled
      simp only [AveragedRate.label, judged, average, String.append_assoc] at plain averaged
      rw [plain, String.append_right_inj] at averaged
      have first := congrArg (·.toList.head?) averaged
      simp [String.toList_append] at first
  · intro same
    rwa [same] at h

def FollowsAverage (c : TrafficCheck) (settings : CheckSettings) (rates : TrafficRates)
    (n : ReportedRate) (r : Finding) (m : Metric) : Prop :=
  ∃ rate g, n.rate? rates = some rate ∧ n.gauge? c settings rates = some g ∧
    n.ShownAs g rate r m

def Shown (c : TrafficCheck) (settings : CheckSettings) (rates : TrafficRates) (n : ReportedRate)
    (r : Finding) (m : Metric) : Prop :=
  ∃ rate g, n.rate? rates = some rate ∧ n.gauge? c settings rates = some g ∧
    n.ShownAs g (n.judged rate) r m

end ReportedRate

open ReportedRate

variable {c : TrafficCheck} {settings : CheckSettings} {rates : TrafficRates}

theorem InPairs.of_present {n : ReportedRate} {rate : AveragedRate} {g : Gauge} {r : Finding}
    {m : Metric} (present : n.rate? rates = some rate) (gauged : n.gauge? c settings rates = some g)
    (shown : n.ShownAs g (n.judged rate) r m) :
    InPairs (Shown c settings rates) ([n].filter (·.isReported c settings rates))
      [.result r, .metric m] := by
  have reported : n.isReported c settings rates = true := by rw [isReported, present, gauged]; rfl
  rw [List.filter_cons_of_pos reported]
  exact .single ⟨rate, g, present, gauged, shown⟩

theorem InPairs.of_missing {n : ReportedRate} (missing : n.isReported c settings rates = false) :
    InPairs (Shown c settings rates) ([n].filter (·.isReported c settings rates)) [] := by
  rw [List.filter_cons_of_neg (by simp [missing])]
  exact .nil

namespace TrafficCheck

def shareNote (c : TrafficCheck) (value : Float) (speed : Option Float) : String :=
  match speed.filter fun s => s != 0.0 with
  | some s => " (" ++ c.shareText value s ++ ")"
  | none => ""

theorem withShare_eq (c : TrafficCheck) (value : Float) (speed : Option Float) (r : Finding) :
    c.withShare value speed r = { r with text := r.text ++ c.shareNote value speed } := by
  unfold withShare shareNote
  cases speed.filter fun s => s != 0.0 with
  | none => rw [String.append_empty]
  | some s => simp only [String.append_assoc]

theorem withShare_state (c : TrafficCheck) (value : Float) (speed : Option Float) (r : Finding) :
    (c.withShare value speed r).state = r.state := by
  rw [withShare_eq]

theorem withShare_text (c : TrafficCheck) (value : Float) (speed : Option Float) (r : Finding) :
    ∃ rest, (c.withShare value speed r).text = r.text ++ rest := by
  rw [withShare_eq]
  exact ⟨_, rfl⟩

theorem directionEntries_inPairs {direction : Direction} {traffic : AveragedRate}
    {entries : List Entry} (alone : c.comparator = none)
    (present : rates.traffic direction = some traffic)
    (h : c.directionEntries direction traffic = .ok entries) :
    InPairs (Shown c settings rates)
      ([ReportedRate.traffic direction].filter (·.isReported c settings rates)) entries := by
  simp only [directionEntries, judge, alone] at h
  cases levels : c.levels direction with
  | predictive config =>
    rw [levels] at h
    cases h
  | fixed upper lower =>
    rw [levels] at h
    cases h
    have gauged : (ReportedRate.traffic direction).gauge? c settings rates =
        some ⟨none, upper, lower, c.unit.render⟩ := by
      simp only [gauge?, levels]
    exact .of_present present gauged ⟨c.withShare_state _ _ _, c.withShare_text _ _ _, rfl, rfl⟩

theorem measuredDirections_eq (c : TrafficCheck) (rates : TrafficRates) :
    c.measuredDirections rates =
      (directions c.checksTotal).filterMap fun direction =>
        (rates.traffic direction).map (direction, ·) := by
  cases hin : rates.counters.inOctets <;> cases hout : rates.counters.outOctets <;>
    cases htotal : rates.octetTotal <;>
    cases total : c.checksTotal <;>
      simp [measuredDirections, directions, TrafficRates.traffic, hin, hout, htotal, total]

theorem report_inPairs {entries : List Entry} (alone : c.comparator = none)
    (h : c.report rates = .ok entries) :
    InPairs (Shown c settings rates)
      (((directions c.checksTotal).map traffic).filter (·.isReported c settings rates))
      entries := by
  obtain ⟨parts, each, rfl⟩ := report_eq_ok.1 h
  rw [measuredDirections_eq] at each
  clear h
  generalize directions c.checksTotal = checked at each ⊢
  induction checked generalizing parts with
  | nil =>
    cases each
    exact .nil
  | cons direction rest ih =>
    rw [List.map_cons, ← List.singleton_append, List.filter_append]
    cases present : rates.traffic direction with
    | none =>
      rw [List.filterMap_cons_none (by rw [present]; rfl)] at each
      have missing : (ReportedRate.traffic direction).isReported c settings rates = false := by
        rw [isReported, rate?, present]
        rfl
      exact (InPairs.of_missing missing).append (ih parts each)
    | some traffic =>
      rw [List.filterMap_cons_some (by rw [present]; rfl)] at each
      cases each with
      | cons first others =>
        exact (directionEntries_inPairs alone present first).append (ih _ others)

end TrafficCheck

namespace Packets

theorem kind_inPairs (c : TrafficCheck) (settings : CheckSettings) (rates : TrafficRates)
    (direction : Direction) (kind : PacketKind) :
    InPairs (Shown c settings rates)
      ([packets direction kind].filter (·.isReported c settings rates))
      ((checkedOf direction settings (ratesIn rates direction) kind).toList.flatMap
        (entries direction)) := by
  cases present : (ratesIn rates direction).get kind with
  | none =>
    have missing : (packets direction kind).isReported c settings rates = false := by
      rw [isReported, rate?, present]
      rfl
    rw [checkedOf, present]
    exact .of_missing missing
  | some rate =>
    rw [checkedOf, present, Option.map_some, Option.toList_some,
      List.flatMap_singleton, entries, judge]
    cases level : (settings.packetLimits kind).bind (·.get direction) with
    | none =>
      have gauged : (packets direction kind).gauge? c settings rates =
          some ⟨none, none, none, Quantity.packetRate⟩ := by
        simp only [gauge?, level]
      exact .of_present present gauged ⟨rfl, ⟨"", String.append_empty.symm⟩, rfl, rfl⟩
    | some limit =>
      obtain ⟨scale, levels⟩ := limit
      cases scale with
      | absolute =>
        have gauged : (packets direction kind).gauge? c settings rates =
            some ⟨none, some levels.thresholds, none, Quantity.packetRate⟩ := by
          simp only [gauge?, level]
        exact .of_present present gauged ⟨rfl, ⟨"", String.append_empty.symm⟩, rfl, rfl⟩
      | percent =>
        cases total : (ratesIn rates direction).reference kind with
        | none =>
          have missing : (packets direction kind).isReported c settings rates = false := by
            simp only [isReported, gauge?, level, total, Option.map_none,
              Option.isSome_none, Bool.and_false]
          exact .of_missing missing
        | some reference =>
          have gauged : (packets direction kind).gauge? c settings rates =
              some ⟨some reference, some levels.thresholds, none, Quantity.packetShare⟩ := by
            simp only [gauge?, level, total, Option.map_some]
          exact .of_present present gauged ⟨rfl, ⟨"", String.append_empty.symm⟩, rfl, rfl⟩

theorem nonUnicast_inPairs (c : TrafficCheck) (settings : CheckSettings) (rates : TrafficRates)
    (direction : Direction) :
    InPairs (Shown c settings rates)
      ([nonUnicast direction].filter (·.isReported c settings rates))
      ((ratesIn rates direction).nonUnicast.toList.flatMap
        (nonUnicastEntries direction settings.nonUnicast)) := by
  cases present : (ratesIn rates direction).nonUnicast with
  | none =>
    have missing : (nonUnicast direction).isReported c settings rates = false := by
      rw [isReported, rate?, present]
      rfl
    exact .of_missing missing
  | some rate =>
    rw [Option.toList_some, List.flatMap_singleton]
    exact .of_present present rfl ⟨rfl, ⟨"", String.append_empty.symm⟩, rfl, rfl⟩

theorem report_eq_flatMap (settings : CheckSettings) (rates : TrafficRates) :
    report settings rates =
      [Direction.input, .output].flatMap fun direction =>
        directionEntries direction settings (ratesIn rates direction) := by
  simp [report, ratesIn]

theorem report_inPairs (c : TrafficCheck) (settings : CheckSettings) (rates : TrafficRates) :
    InPairs (Shown c settings rates) (ofPackets.filter (·.isReported c settings rates))
      (report settings rates) := by
  rw [report_eq_flatMap, ofPackets, List.filter_flatMap]
  refine InPairs.flatMap fun direction _ => ?_
  rw [directionEntries, checkedRates_eq, List.filterMap_eq_flatMap_toList, List.flatMap_assoc,
    List.filter_append, List.map_eq_flatMap, List.filter_flatMap]
  exact (InPairs.flatMap fun kind _ => kind_inPairs c settings rates direction kind).append
    (nonUnicast_inPairs c settings rates direction)

end Packets

theorem followsAverage_iff {n : ReportedRate} {r : Finding} {m : Metric}
    (shown : Shown c settings rates n r m) :
    FollowsAverage c settings rates n r m ↔
      ∀ rate, n.rate? rates = some rate → n.judged rate = rate := by
  obtain ⟨rate, g, present, gauged, shown⟩ := shown
  rw [present]
  simp only [Option.some.injEq, forall_eq', ← shownAs_iff shown]
  constructor
  · rintro ⟨rate', g', present', gauged', shown'⟩
    obtain rfl := Option.some.inj (present.symm.trans present')
    obtain rfl := Option.some.inj (gauged.symm.trans gauged')
    exact shown'
  · exact fun shown' => ⟨rate, g, present, gauged, shown'⟩

theorem nonUnicast_mem_reported {direction : Direction} {rate : AveragedRate}
    (present : (nonUnicast direction).rate? rates = some rate)
    (either : direction = .input ∨ direction = .output) :
    nonUnicast direction ∈ reported c settings rates := by
  have shown : (nonUnicast direction).isReported c settings rates = true := by
    rw [isReported, present]
    rfl
  have listed : nonUnicast direction ∈ ofPackets := by
    rcases either with rfl | rfl <;> simp [ofPackets, PacketKind.all]
  exact List.mem_filter.2 ⟨List.mem_append_right _ listed, shown⟩

theorem judged_eq_self_iff :
    (∀ n ∈ reported c settings rates, ∀ rate, n.rate? rates = some rate →
      n.judged rate = rate) ↔
      ∀ rate, rates.inNonUnicast = some rate ∨ rates.outNonUnicast = some rate →
        rate.average = none := by
  simp only [judged_eq_self]
  constructor
  · rintro h rate (present | present)
    · have known : (nonUnicast .input).rate? rates = some rate := present
      exact h _ (nonUnicast_mem_reported known (Or.inl rfl)) rate known _ rfl
    · have known : (nonUnicast .output).rate? rates = some rate := present
      exact h _ (nonUnicast_mem_reported known (Or.inr rfl)) rate known _ rfl
  · rintro h n - rate present direction rfl
    cases direction with
    | output => exact h rate (Or.inr present)
    | input | total => exact h rate (Or.inl present)

theorem report_inPairs {traffic : List Entry} (alone : c.comparator = none)
    (h : c.report rates = .ok traffic) :
    InPairs (Shown c settings rates) (reported c settings rates)
      (traffic ++ Packets.report settings rates) := by
  rw [reported, List.filter_append]
  exact (TrafficCheck.report_inPairs alone h).append (Packets.report_inPairs c settings rates)

theorem followsAverage_inPairs {entries : List Entry}
    (pairs : InPairs (Shown c settings rates) (reported c settings rates) entries) :
    InPairs (FollowsAverage c settings rates) (reported c settings rates) entries ↔
      ∀ rate, rates.inNonUnicast = some rate ∨ rates.outNonUnicast = some rate →
        rate.average = none := by
  have each : ∀ n r m, Shown c settings rates n r m →
      (FollowsAverage c settings rates n r m ↔
          ∀ rate, n.rate? rates = some rate → n.judged rate = rate) :=
    fun n r m => followsAverage_iff
  rw [pairs.iff_forall each, judged_eq_self_iff]

/-- Without a comparator the results of traffic and packets are about the reported rates, one after
the other. Each result has the state and the text of the average, where there is one, as it is or in
percent, with the backlog in the label, and the metric behind it shows the rate itself; only for
non-unicast packets it has those of the rate itself, without a backlog. So all of them follow the
averages if and only if no rate of non-unicast packets has one. -/
theorem results_of_rates {traffic : List Entry} (alone : c.comparator = none)
    (h : c.report rates = .ok traffic) :
    InPairs (Shown c settings rates) (reported c settings rates)
      (traffic ++ Packets.report settings rates) ∧
      (InPairs (FollowsAverage c settings rates) (reported c settings rates)
        (traffic ++ Packets.report settings rates) ↔
        ∀ rate, rates.inNonUnicast = some rate ∨ rates.outNonUnicast = some rate →
          rate.average = none) :=
  ⟨report_inPairs alone h, followsAverage_inPairs (report_inPairs alone h)⟩

def afterBurst : TrafficRates :=
  .ofCounters { PerCounter.missing with
    inOctets := some ⟨1000.0, some ⟨9000.0, 5⟩⟩
    inMcast := some ⟨10.0, some ⟨100.0, 5⟩⟩
    inBcast := some ⟨0.0, some ⟨0.0, 5⟩⟩ }

def burstSettings : CheckSettings :=
  { CheckSettings.standard with
    multicast := some ⟨none, none, some ⟨.absolute, ⟨50.0, 80.0⟩⟩⟩
    nonUnicast := some ⟨50.0, 80.0⟩ }

def burstCheck : TrafficCheck :=
  Check.trafficCheck none burstSettings ⟨none, none, none⟩

theorem results_after_burst :
    ∃ traffic, burstCheck.report afterBurst = .ok traffic ∧
      InPairs (Shown burstCheck burstSettings afterBurst)
        [.traffic .input, .packets .input .multicast, .packets .input .broadcast,
          .nonUnicast .input]
        (traffic ++ Packets.report burstSettings afterBurst) :=
  ⟨_, rfl, (results_of_rates rfl rfl).1⟩

theorem nonUnicast_after_burst :
    (∃ traffic, burstCheck.report afterBurst = .ok traffic ∧
      ¬InPairs (FollowsAverage burstCheck burstSettings afterBurst)
        (reported burstCheck burstSettings afterBurst)
        (traffic ++ Packets.report burstSettings afterBurst)) ∧
      afterBurst.inNonUnicast = some ⟨10.0, some ⟨100.0, 5⟩⟩ ∧
      .result (.notice .ok "Non-unicast in: 10 packets/s") ∈
        Packets.report burstSettings afterBurst ∧
      (assess 100.0 (some ⟨50.0, 80.0⟩) none Quantity.packetRate
        "Non-unicast in average 5min").1 = .crit := by
  refine ⟨⟨_, rfl, ?_⟩, rfl, ?_, rfl⟩
  · rw [followsAverage_inPairs (report_inPairs rfl rfl)]
    intro unaveraged
    have average := unaveraged ⟨10.0, some ⟨100.0, 5⟩⟩ (Or.inl rfl)
    cases average
  · exact List.mem_append_left _ (List.mem_append_right _ List.mem_cons_self)

end IfaceMonitor
