import IfaceMonitor.Proofs.Check.Lookup
import IfaceMonitor.Proofs.Check.Matches
import IfaceMonitor.Proofs.Check.Metrics

namespace IfaceMonitor

theorem valuesOf_flatMap {α : Type} (name : String) (f : α → List Entry) (xs : List α) :
    valuesOf name (xs.flatMap f) = xs.flatMap fun x => valuesOf name (f x) := by
  induction xs with
  | nil => rfl
  | cons x rest ih => rw [List.flatMap_cons, valuesOf_append, ih, List.flatMap_cons]

inductive PacketKind
  | errors
  | discards
  | multicast
  | broadcast
  | unicast
  deriving DecidableEq

namespace PacketKind

def all : List PacketKind :=
  [errors, discards, multicast, broadcast, unicast]

def title : PacketKind → String
  | errors => "Errors"
  | discards => "Discards"
  | multicast => "Multicast"
  | broadcast => "Broadcast"
  | unicast => "Unicast"

def metric : PacketKind → String
  | errors => "err"
  | discards => "disc"
  | multicast => "mcast"
  | broadcast => "bcast"
  | unicast => "ucast"

theorem metric_injective {kind other : PacketKind} (h : kind.metric = other.metric) :
    kind = other := by
  revert h
  cases kind <;> cases other <;> decide

end PacketKind

def CheckSettings.packetLimits (settings : CheckSettings) : PacketKind → Option PacketLimits
  | .errors => settings.errors
  | .discards => settings.discards
  | .multicast => settings.multicast
  | .broadcast => settings.broadcast
  | .unicast => settings.unicast

namespace Packets

def PacketRates.get (r : PacketRates) : PacketKind → Option AveragedRate
  | .errors => r.errors
  | .discards => r.discards
  | .multicast => r.multicast
  | .broadcast => r.broadcast
  | .unicast => r.unicast

def PacketRates.reference (r : PacketRates) : PacketKind → Option Float
  | .errors => totalRate [r.unicast, r.nonUnicast, r.errors]
  | .discards => totalRate [r.unicast, r.nonUnicast, r.discards]
  | _ => totalRate [r.unicast, r.nonUnicast]

theorem totalRate_isSome (rates : List (Option AveragedRate)) :
    (totalRate rates).isSome = rates.all (·.isSome) := by
  unfold totalRate
  generalize (0.0 : Float) = start
  induction rates generalizing start with
  | nil => rfl
  | cons rate rest ih =>
    cases rate with
    | none => rfl
    | some r => exact ih (start + r.rate)

def checkedOf (direction : Direction) (settings : CheckSettings) (r : PacketRates)
    (kind : PacketKind) : Option Checked :=
  (r.get kind).map fun rate =>
    { rate, level := (settings.packetLimits kind).bind (·.get direction), title := kind.title,
      metric := kind.metric, reference := r.reference kind }

theorem checkedRates_eq (direction : Direction) (settings : CheckSettings) (r : PacketRates) :
    checkedRates direction settings r = PacketKind.all.filterMap (checkedOf direction settings r) :=
  rfl

def Checked.isShown (c : Checked) : Bool :=
  !(c.level.any (·.scale == .percent) && c.reference.isNone)

theorem judge_isSome (direction : Direction) (c : Checked) :
    (judge direction c).isSome = c.isShown := by
  obtain ⟨rate, level, title, metric, reference⟩ := c
  rcases level with _ | ⟨_ | _, levels⟩
  · rfl
  · rfl
  · cases reference <;> rfl

theorem entries_valuesOf (direction : Direction) (c : Checked) (kind : String) :
    valuesOf (direction.name ++ kind) (entries direction c) =
      if c.metric = kind ∧ c.isShown = true then [c.rate.rate] else [] := by
  have judged := judge_isSome direction c
  unfold entries
  cases h : judge direction c with
  | none =>
    have skipped : c.isShown = false := by rw [← judged, h, Option.isSome_none]
    simp [valuesOf, skipped]
  | some parts =>
    have shown : c.isShown = true := by rw [← judged, h, Option.isSome_some]
    by_cases same : c.metric = kind <;>
      simp [valuesOf, List.filterMap_cons, Entry.metric?, Metric.plain, same, shown]

theorem checkedOf_valuesOf (direction : Direction) (settings : CheckSettings) (r : PacketRates)
    (kind other : PacketKind) :
    valuesOf (direction.name ++ kind.metric)
      ((checkedOf direction settings r other).toList.flatMap (entries direction)) =
      if other = kind then ((checkedOf direction settings r kind).filter (·.isShown)).toList.map
        (·.rate.rate) else [] := by
  cases found : checkedOf direction settings r other with
  | none =>
    by_cases same : other = kind
    · rw [← same, found]
      simp [valuesOf]
    · rw [if_neg same]
      rfl
  | some c =>
    have metric : c.metric = other.metric := by
      obtain ⟨rate, -, rfl⟩ := Option.map_eq_some_iff.1 found
      rfl
    rw [Option.toList_some, List.flatMap_singleton, entries_valuesOf, metric]
    by_cases same : other = kind
    · subst same
      rw [found, Option.filter_some]
      by_cases shown : c.isShown = true <;> simp [shown]
    · have apart : other.metric ≠ kind.metric := fun h => same (PacketKind.metric_injective h)
      rw [if_neg fun h => apart h.1, if_neg same]

theorem nonUnicast_valuesOf (direction : Direction) (levels : Option LevelPair)
    (rate : Option AveragedRate) (kind : PacketKind) :
    valuesOf (direction.name ++ kind.metric)
      (rate.toList.flatMap (nonUnicastEntries direction levels)) = [] := by
  have other : "nucast" ≠ kind.metric := by cases kind <;> decide
  cases rate with
  | none => rfl
  | some r =>
    simp [nonUnicastEntries, valuesOf, List.filterMap_cons, Entry.metric?, Metric.plain, other]

theorem directionEntries_valuesOf (direction : Direction) (settings : CheckSettings)
    (r : PacketRates) (kind : PacketKind) :
    valuesOf (direction.name ++ kind.metric) (directionEntries direction settings r) =
      ((checkedOf direction settings r kind).filter (·.isShown)).toList.map (·.rate.rate) := by
  rw [directionEntries, valuesOf_append, nonUnicast_valuesOf, List.append_nil, checkedRates_eq,
    List.filterMap_eq_flatMap_toList, List.flatMap_assoc, valuesOf_flatMap]
  simp only [checkedOf_valuesOf]
  cases kind <;> simp [PacketKind.all]

end Packets

namespace Counter

def direction : Counter → Direction
  | inOctets | inUcast | inMcast | inBcast | inDisc | inErr => .input
  | outOctets | outUcast | outMcast | outBcast | outDisc | outErr => .output

def packets? : Counter → Option PacketKind
  | inOctets | outOctets => none
  | inUcast | outUcast => some .unicast
  | inMcast | outMcast => some .multicast
  | inBcast | outBcast => some .broadcast
  | inDisc | outDisc => some .discards
  | inErr | outErr => some .errors

def metricName (c : Counter) : String :=
  c.direction.name ++ (c.packets?.map PacketKind.metric).getD ""

def packetsOfDirection (c : Counter) : List Counter :=
  match c.direction with
  | .output => [outUcast, outMcast, outBcast]
  | _ => [inUcast, inMcast, inBcast]

end Counter

def CheckSettings.inPercent (settings : CheckSettings) (c : Counter) : Bool :=
  (c.packets?.bind fun kind => (settings.packetLimits kind).bind (·.get c.direction)).any
    (·.scale == .percent)

namespace Packets

def ratesIn (rates : TrafficRates) : Direction → PacketRates
  | .output => outgoing rates
  | _ => incoming rates

theorem get_of_packets {counters : PerCounter (Option AveragedRate)} {c : Counter}
    {kind : PacketKind} (h : c.packets? = some kind) :
    (ratesIn (.ofCounters counters) c.direction).get kind = counters.get c := by
  cases c <;> cases h <;> rfl

theorem reference_isSome {counters : PerCounter (Option AveragedRate)} {c : Counter}
    {kind : PacketKind} (h : c.packets? = some kind) (obtained : (counters.get c).isSome = true) :
    ((ratesIn (.ofCounters counters) c.direction).reference kind).isSome =
      c.packetsOfDirection.all fun other => (counters.get other).isSome := by
  -- Errors and discards add their own rate to the reference, which is the rate that was obtained.
  cases c <;> cases h <;> simp only [PerCounter.get] at obtained <;>
    simp [Counter.direction, ratesIn, incoming, outgoing, PacketRates.reference, totalRate_isSome,
      TrafficRates.ofCounters, sumIfBoth_isSome, Counter.packetsOfDirection,
      PerCounter.get, obtained]

theorem report_elsewhere {c : Counter} {direction : Direction} (other : direction ≠ c.direction)
    (settings : CheckSettings) (r : PacketRates) :
    valuesOf c.metricName (directionEntries direction settings r) = [] := by
  have apart : ∀ suffix ∈ kinds, direction.name ++ suffix ≠ c.metricName := by
    revert other
    cases direction <;> cases c <;> decide
  apply valuesOf_eq_nil
  intro m hm same
  obtain ⟨suffix, hs, named⟩ := directionEntries_name hm
  exact apart suffix hs (named.symm.trans same)

theorem report_valuesOf_metricName (settings : CheckSettings) (rates : TrafficRates) (c : Counter) :
    valuesOf c.metricName (report settings rates) =
      valuesOf c.metricName
        (directionEntries c.direction settings (ratesIn rates c.direction)) := by
  rw [report, valuesOf_append]
  cases towards : c.direction with
  | input =>
    have output : Direction.output ≠ c.direction := by rw [towards]; decide
    rw [report_elsewhere output, List.append_nil]
    rfl
  | output =>
    have input : Direction.input ≠ c.direction := by rw [towards]; decide
    rw [report_elsewhere input, List.nil_append]
    rfl
  | total => cases c <;> cases towards

theorem report_counter (settings : CheckSettings) {counters : PerCounter (Option AveragedRate)}
    {c : Counter} {rate : AveragedRate} (packets : c.packets?.isSome = true)
    (obtained : counters.get c = some rate) :
    valuesOf c.metricName (report settings (.ofCounters counters)) =
      if settings.inPercent c && c.packetsOfDirection.any fun other =>
        (counters.get other).isNone then []
      else [rate.rate] := by
  obtain ⟨kind, h⟩ := Option.isSome_iff_exists.1 packets
  have name : c.metricName = c.direction.name ++ kind.metric := by rw [Counter.metricName, h]; rfl
  have percent : settings.inPercent c =
      ((settings.packetLimits kind).bind (·.get c.direction)).any (·.scale == .percent) := by
    rw [CheckSettings.inPercent, h, Option.bind_some]
  have reference : (c.packetsOfDirection.any fun other => (counters.get other).isNone) =
      ((ratesIn (.ofCounters counters) c.direction).reference kind).isNone := by
    rw [← Option.not_isSome, reference_isSome h (by rw [obtained]; rfl), List.not_all_eq_any_not]
    simp
  rw [report_valuesOf_metricName, name, directionEntries_valuesOf, checkedOf, get_of_packets h,
    obtained, Option.map_some, Option.filter_some, percent, reference, Checked.isShown]
  by_cases missing :
      (((settings.packetLimits kind).bind (·.get c.direction)).any (·.scale == .percent) &&
        ((ratesIn (.ofCounters counters) c.direction).reference kind).isNone) = true
  · rw [if_pos missing, missing]
    rfl
  · rw [if_neg missing, Bool.eq_false_iff.2 missing]
    rfl

end Packets

namespace Check

theorem report_counter {item : String} {settings : CheckSettings} {m : Measured}
    {members : MemberListing} {useDiscovered : Bool} {entries : List Entry}
    (sums : m.rates = .ofCounters m.rates.counters) (up : m.attributes.operStatus.isDown = false)
    (h : report none item settings m members useDiscovered = .ok entries) {c : Counter}
    {rate : AveragedRate} (obtained : m.rates.counters.get c = some rate) :
    valuesOf c.metricName entries =
      if settings.inPercent c && c.packetsOfDirection.any fun other =>
        (m.rates.counters.get other).isNone then []
      else [rate.rate] := by
  cases packets : c.packets? with
  | none =>
    -- Octets: the metric is that of the traffic in their direction.
    have name : c.metricName = c.direction.name := by
      rw [Counter.metricName, packets]
      exact String.append_empty
    have absolute : settings.inPercent c = false := by rw [CheckSettings.inPercent, packets]; rfl
    have traffic : m.rates.traffic c.direction = some rate := by
      rw [← obtained]
      cases c <;> cases packets <;> rfl
    have some_direction : c.direction ≠ .total := by cases c <;> decide
    rw [name, report_valuesOf h, if_neg (by simp [up]), if_neg fun total =>
      some_direction total.1, traffic, absolute]
    rfl
  | some kind =>
    have suffixed : ∀ direction : Direction, direction.name ≠ c.metricName := by
      have counted : c.packets?.isSome = true := by rw [packets]; rfl
      intro direction
      revert counted
      cases direction <;> cases c <;> decide
    have queue : "outqlen" ≠ c.metricName := by cases c <;> decide
    have states : valuesOf c.metricName
        (stateEntries item settings m.attributes members useDiscovered) = [] :=
      valuesOf_results _ _
    have shown := Packets.report_counter settings (by rw [packets]; rfl) obtained
    rw [← sums] at shown
    obtain ⟨traffic, htraffic, rfl⟩ := (report_of_not_down up).1 h
    have none_here := TrafficCheck.report_valuesOf_of_ne rfl htraffic suffixed
    simp only [valuesOf_append, states, queue_valuesOf queue, none_here, gapEntries_valuesOf,
      List.nil_append, List.append_nil, shown]

theorem checkItem_of_report {comparator : Option Comparator} {item : String}
    {settings : CheckSettings} {interfaces : Section} {time : Float} {store : SampleStore}
    {i : Interface} {entries : List Entry}
    (required : requireComparator comparator settings = .ok ())
    (ungrouped : settings.discovered.group = none)
    (meant : interfaces.meantBy item settings.discovered.naming = [i])
    (reported : report comparator item settings
      (measureUnlessDown i time settings.averaging store).1 [] i.attributes.node.isNone =
      .ok entries) :
    checkItem comparator item settings interfaces time store =
      .ok (entries, (measureUnlessDown i time settings.averaging store).2) := by
  refine (checkItem_only ungrouped meant).2 ⟨required, ?_, rfl⟩
  rw [Reports, measureUnlessDown_attributes]
  exact reported

end Check

/-- In a check of one interface on a single host, without predictive rules, the metric of each
counter whose rate was obtained stands in the report once and shows this rate. It is missing only if
the levels of the counter are in percent and a counter of the packets of its direction has no
rate. -/
theorem counter_metric_of_check (comparator : Option Comparator) {item : String}
    {settings : CheckSettings} {interfaces : Section} (time : Float) (store : SampleStore)
    {i : Interface} (plain : interfaces.Plain) (ungrouped : settings.discovered.group = none)
    (fixed : ∀ rule ∈ settings.rulesInOrder, rule.levels.isPredictive = false)
    (meant : i ∈ interfaces.meantBy item settings.discovered.naming)
    (up : i.attributes.operStatus.isDown = false) :
    ∃ entries, checkItem comparator item settings interfaces time store =
        .ok (entries, (Measured.measure i time settings.averaging store).2) ∧
      ∀ counter rate,
        (Measured.measure i time settings.averaging store).1.rates.counters.get counter =
          some rate →
        valuesOf counter.metricName entries =
          if settings.inPercent counter && counter.packetsOfDirection.any fun other =>
            ((Measured.measure i time settings.averaging store).1.rates.counters.get other).isNone
          then [] else [rate.rate] := by
  have only : interfaces.meantBy item settings.discovered.naming = [i] := by
    rw [Section.meantBy_of_plain plain] at meant ⊢
    rw [Option.mem_toList.1 meant, Option.toList_some]
  have measured : Check.measureUnlessDown i time settings.averaging store =
      Measured.measure i time settings.averaging store := by
    rw [Check.measureUnlessDown, up]
    rfl
  have required : Check.requireComparator comparator settings = .ok () :=
    Check.requireComparator_eq_ok.2 (Or.inr fixed)
  obtain ⟨entries, reported⟩ :=
    Check.report_succeeds required item (Measured.measure i time settings.averaging store).1 []
      i.attributes.node.isNone
  rw [← measured] at reported ⊢
  refine ⟨entries, Check.checkItem_of_report required ungrouped only reported, ?_⟩
  intro counter rate obtained
  rw [Check.report_of_fixed fixed, measured] at reported
  rw [measured] at obtained ⊢
  exact Check.report_counter rfl up reported obtained

def restartedPort : Interface where
  attributes :=
    { index := "1", descr := "eth0", aliasName := "", typeCode := "6", speed := 0.0,
      operStatus := .up, adminStatus := none, address := .empty, outQueue := none,
      speedText := "", group := none, node := none, extraInfo := none }
  traffic := .counters { PerCounter.missing with
    inUcast := some 1000, inMcast := some 500, inBcast := some 0, inErr := some 50 }

def samplesBeforeRestart : SampleStore :=
  .ofList [(sampleKey .inUcast "1.eth0..None", ⟨0.0, 5000.0⟩),
    (sampleKey .inMcast "1.eth0..None", ⟨0.0, 0.0⟩),
    (sampleKey .inBcast "1.eth0..None", ⟨0.0, 0.0⟩),
    (sampleKey .inErr "1.eth0..None", ⟨0.0, 0.0⟩)]

theorem multicast_metric_of_restartedPort :
    ∃ entries store, checkItem none "eth0" .standard [restartedPort] 5.0 samplesBeforeRestart =
      .ok (entries, store) ∧
      valuesOf "inmcast" entries = [100.0] ∧ valuesOf "inerr" entries = [] := by
  have plain : Section.Plain [restartedPort] := by
    intro i hi
    cases hi
    rfl
  have fixed : ∀ rule ∈ CheckSettings.standard.rulesInOrder, rule.levels.isPredictive = false :=
    nofun
  have meant : restartedPort ∈
      Section.meantBy [restartedPort] "eth0" CheckSettings.standard.discovered.naming :=
    List.mem_singleton_self restartedPort
  obtain ⟨entries, checked, metrics⟩ :=
    counter_metric_of_check none 5.0 samplesBeforeRestart plain rfl fixed meant rfl
  exact ⟨entries, _, checked, metrics .inMcast ⟨100.0, none⟩ rfl,
    metrics .inErr ⟨10.0, none⟩ rfl⟩

theorem no_error_metric_of_restartedPort :
    (Measured.measure restartedPort 5.0 CheckSettings.standard.averaging
      samplesBeforeRestart).1.rates.counters.get .inErr =
        some ⟨10.0, none⟩ ∧
      ∃ entries store, checkItem none "eth0" .standard [restartedPort] 5.0 samplesBeforeRestart =
        .ok (entries, store) ∧
        valuesOf "inerr" entries = [] :=
  ⟨rfl, _, _, rfl, rfl⟩

end IfaceMonitor
