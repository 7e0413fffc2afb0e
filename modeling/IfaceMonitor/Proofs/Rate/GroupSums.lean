import IfaceMonitor.Group.Combined
import IfaceMonitor.Proofs.Rate.Observation

namespace IfaceMonitor

inductive Total
  | inNonUnicast
  | outNonUnicast
  | octets

def Total.parts : Total → Counter × Counter
  | inNonUnicast => (.inMcast, .inBcast)
  | outNonUnicast => (.outMcast, .outBcast)
  | octets => (.inOctets, .outOctets)

inductive RateName
  | counter (c : Counter)
  | total (t : Total)

namespace TrafficRates

def get (r : TrafficRates) : RateName → Option AveragedRate
  | .counter c => r.counters.get c
  | .total .inNonUnicast => r.inNonUnicast
  | .total .outNonUnicast => r.outNonUnicast
  | .total .octets => r.octetTotal

def Has (r : TrafficRates) (n : RateName) : Prop :=
  (r.get n).isSome = true

theorem get_missing (n : RateName) : missing.get n = none := by
  cases n with
  | counter c => exact PerCounter.get_ofFn (fun _ => none) c
  | total t => cases t <;> rfl

theorem get_add (a b : TrafficRates) (n : RateName) :
    (a.add b).get n = sumOfPresent .add (a.get n) (b.get n) := by
  cases n with
  | counter c =>
    exact PerCounter.get_ofFn (fun c => sumOfPresent .add (a.counters.get c) (b.counters.get c)) c
  | total t => cases t <;> rfl

theorem get_ofCounters_total (counters : PerCounter (Option AveragedRate)) (t : Total) :
    (ofCounters counters).get (.total t) =
      sumIfBoth .add (counters.get t.parts.1) (counters.get t.parts.2) := by
  cases t <;> rfl

end TrafficRates

def sumFromFirst? : List Float → Option Float
  | [] => none
  | first :: rest => some (rest.foldl (· + ·) first)

namespace AveragedRate

theorem average_add_eq_some {a b : AveragedRate} {sum : Average} :
    (a.add b).average = some sum ↔
      ∃ x y, a.average = some x ∧ b.average = some y ∧ x.backlog = y.backlog ∧
        sum = ⟨x.value + y.value, x.backlog⟩ := by
  rw [add, addAverages.eq_def]
  cases a.average with
  | none => simp
  | some x =>
    cases b.average with
    | none => simp
    | some y =>
      by_cases same : x.backlog = y.backlog
      · simp [Average.add, same, Except.toOption, eq_comm]
      · simp [Average.add, same, Except.toOption]

theorem foldl_add_rate (rest : List AveragedRate) (first : AveragedRate) :
    (rest.foldl add first).rate = (rest.map (·.rate)).foldl (· + ·) first.rate := by
  induction rest generalizing first with
  | nil => rfl
  | cons next rest ih => exact ih (first.add next)

theorem foldl_add_average {rest : List AveragedRate} {first : AveragedRate} {sum : Average} :
    (rest.foldl add first).average = some sum ↔
      (∀ r ∈ first :: rest, r.average.map (·.backlog) = some sum.backlog) ∧
        sumFromFirst? ((first :: rest).filterMap fun r => r.average.map (·.value)) =
          some sum.value := by
  induction rest generalizing first with
  | nil =>
    obtain ⟨_, average⟩ := first
    cases average with
    | none => simp
    | some own =>
      obtain ⟨value, backlog⟩ := own
      obtain ⟨total, minutes⟩ := sum
      simp [sumFromFirst?, and_comm]
  | cons next rest ih =>
    rw [List.foldl_cons, ih]
    cases both : (first.add next).average with
    | some start =>
      obtain ⟨x, y, own, other, same, rfl⟩ := average_add_eq_some.1 both
      simp [both, own, other, sumFromFirst?, same]
    | none =>
      -- No common backlog fits the first two rates, for then they would have been added.
      have apart : ¬(first.average.map (·.backlog) = some sum.backlog ∧
          next.average.map (·.backlog) = some sum.backlog) := by
        rintro ⟨own, other⟩
        obtain ⟨x, averaged, backlog⟩ := Option.map_eq_some_iff.1 own
        obtain ⟨y, averaged', backlog'⟩ := Option.map_eq_some_iff.1 other
        have kept :=
          average_add_eq_some.2 ⟨x, y, averaged, averaged', backlog.trans backlog'.symm, rfl⟩
        rw [both] at kept
        cases kept
      simp only [List.forall_mem_cons, both, Option.map_none, reduceCtorEq, false_and, false_iff]
      exact fun shared => apart ⟨shared.1.1, shared.1.2.1⟩

def sum? : List AveragedRate → Option AveragedRate
  | [] => none
  | first :: rest => some (rest.foldl add first)

theorem sum?_isSome (parts : List AveragedRate) : (sum? parts).isSome = true ↔ parts ≠ [] := by
  cases parts <;> simp [sum?]

theorem sum?_sumOfPresent (a b : Option AveragedRate) (rest : List AveragedRate) :
    sum? ((sumOfPresent add a b).toList ++ rest) = sum? (a.toList ++ (b.toList ++ rest)) := by
  cases a <;> cases b <;> rfl

/-- A sum of rates: every rate counts, and the average counts every average or is lost. -/
structure SumOf (parts : List AveragedRate) (sum : AveragedRate) : Prop where
  rate : sumFromFirst? (parts.map (·.rate)) = some sum.rate
  averaged : sum.average.isSome = true ↔
    ∃ backlog, ∀ r ∈ parts, r.average.map (·.backlog) = some backlog
  average : ∀ a, sum.average = some a →
    (∀ r ∈ parts, r.average.map (·.backlog) = some a.backlog) ∧
      sumFromFirst? (parts.filterMap fun r => r.average.map (·.value)) = some a.value

theorem sumOf_of_sum? {parts : List AveragedRate} {sum : AveragedRate} (h : sum? parts = some sum) :
    SumOf parts sum := by
  cases parts with
  | nil => cases h
  | cons first rest =>
    cases h
    refine ⟨?_, ⟨?_, ?_⟩, fun a kept => foldl_add_average.1 kept⟩
    · rw [foldl_add_rate]
      rfl
    · intro kept
      obtain ⟨a, kept⟩ := Option.isSome_iff_exists.1 kept
      exact ⟨a.backlog, (foldl_add_average.1 kept).1⟩
    · rintro ⟨backlog, shared⟩
      obtain ⟨own, averaged, -⟩ := Option.map_eq_some_iff.1 (shared first List.mem_cons_self)
      obtain ⟨value, values⟩ : ∃ value,
          sumFromFirst? ((first :: rest).filterMap fun r => r.average.map (·.value)) =
            some value := by
        simp [averaged, sumFromFirst?]
      have kept : (rest.foldl add first).average = some ⟨value, backlog⟩ :=
        foldl_add_average.2 ⟨shared, values⟩
      rw [kept]
      rfl

end AveragedRate

namespace Measured
variable {group : String} {members : List Measured} {n : RateName}

def ratesOfUp (members : List Measured) (n : RateName) : List AveragedRate :=
  (members.filter (·.attributes.isUp)).filterMap (·.rates.get n)

theorem get_foldl_add (members : List Measured) (total : TrafficRates) (n : RateName) :
    (members.foldl (fun total m => total.add m.rates) total).get n =
      AveragedRate.sum? ((total.get n).toList ++ members.filterMap (·.rates.get n)) := by
  induction members generalizing total with
  | nil => cases h : total.get n <;> simp [AveragedRate.sum?, h]
  | cons m rest ih =>
    have own : (m :: rest).filterMap (·.rates.get n) =
        (m.rates.get n).toList ++ rest.filterMap (·.rates.get n) := by
      cases h : m.rates.get n <;> simp [h]
    rw [List.foldl_cons, ih, TrafficRates.get_add, own, AveragedRate.sum?_sumOfPresent]

theorem ofMembers_get (group : String) (members : List Measured) (n : RateName) :
    (ofMembers group members).rates.get n = AveragedRate.sum? (ratesOfUp members n) := by
  rw [ofMembers, get_foldl_add, TrafficRates.get_missing]
  rfl

theorem ofMembers_has :
    (ofMembers group members).rates.Has n ↔
      ∃ m ∈ members, m.attributes.isUp = true ∧ m.rates.Has n := by
  simp only [TrafficRates.Has]
  rw [ofMembers_get, AveragedRate.sum?_isSome, ratesOfUp, ne_eq, List.filterMap_eq_nil_iff]
  simp only [List.mem_filter, and_imp, not_forall, Option.isSome_iff_ne_none, exists_prop]

theorem ratesOfUp_append (members later : List Measured) (n : RateName) :
    ratesOfUp (members ++ later) n = ratesOfUp members n ++ ratesOfUp later n := by
  simp only [ratesOfUp, List.filter_append, List.filterMap_append]

theorem average_stays_lost {sum : AveragedRate}
    (present : (ofMembers group members).rates.get n = some sum) (lost : sum.average = none)
    (later : List Measured) :
    ∃ more, (ofMembers group (members ++ later)).rates.get n = some more ∧
      more.average = none := by
  rw [ofMembers_get] at present ⊢
  have parts : AveragedRate.SumOf (ratesOfUp members n) sum := AveragedRate.sumOf_of_sum? present
  have some_part : ratesOfUp (members ++ later) n ≠ [] := by
    rw [ratesOfUp_append]
    exact List.append_ne_nil_of_left_ne_nil
      ((AveragedRate.sum?_isSome _).1 (by rw [present]; rfl)) _
  obtain ⟨more, summed⟩ := Option.isSome_iff_exists.1 ((AveragedRate.sum?_isSome _).2 some_part)
  refine ⟨more, summed, Option.not_isSome_iff_eq_none.1 fun kept => ?_⟩
  -- An average of all would need a backlog that the first members have in common.
  obtain ⟨backlog, shared⟩ := (AveragedRate.sumOf_of_sum? summed).averaged.1 kept
  rw [ratesOfUp_append] at shared
  have averaged :=
    parts.averaged.2 ⟨backlog, fun r part => shared r (List.mem_append_left _ part)⟩
  rw [lost] at averaged
  cases averaged

end Measured

/-- A group has a rate exactly if a member that is up has it. The rate is the sum of all of these in
their order. It has an average exactly if each of them has one and all backlogs are equal, and this
is the sum of theirs over that backlog. A lost average stays lost, whatever members follow. -/
theorem group_rate (group : String) (members : List Measured) (n : RateName) :
    ((Measured.ofMembers group members).rates.Has n ↔
      ∃ m ∈ members, m.attributes.isUp = true ∧ m.rates.Has n) ∧
      ∀ sum, (Measured.ofMembers group members).rates.get n = some sum →
        AveragedRate.SumOf (Measured.ratesOfUp members n) sum ∧
          (sum.average = none → ∀ later, ∃ more,
            (Measured.ofMembers group (members ++ later)).rates.get n = some more ∧
              more.average = none) := by
  refine ⟨Measured.ofMembers_has, fun sum present =>
    ⟨?_, Measured.average_stays_lost present⟩⟩
  rw [Measured.ofMembers_get] at present
  exact AveragedRate.sumOf_of_sum? present

def bondAttributes (index : String) (status : LinkStatus) : Attributes where
  index := index
  descr := "eth" ++ index
  aliasName := ""
  typeCode := "6"
  speed := 0.0
  operStatus := status
  adminStatus := none
  address := .empty
  outQueue := none
  speedText := ""
  group := some "bond0"
  node := none
  extraInfo := none

def averagedMember (index : String) (status : LinkStatus) (octets : Option AveragedRate) :
    Measured where
  attributes := bondAttributes index status
  rates := .ofCounters { PerCounter.missing with inOctets := octets }
  gaps := []

def averagedBond : List Measured :=
  [averagedMember "1" .up (some ⟨10.0, some ⟨8.0, 5⟩⟩),
    averagedMember "2" .down (some ⟨99.0, none⟩), averagedMember "3" .up none,
    averagedMember "4" .up (some ⟨20.0, some ⟨16.0, 5⟩⟩)]

def slowMember : Measured :=
  averagedMember "5" .up (some ⟨1.0, some ⟨1.0, 10⟩⟩)

theorem octets_of_averagedBond :
    (∃ sum, (Measured.ofMembers "bond0" averagedBond).rates.get (.counter .inOctets) =
      some sum ∧ sum.rate = 30.0 ∧
        sum.average = some ⟨24.0, 5⟩) ∧
      ∃ sum, (Measured.ofMembers "bond0" (averagedBond ++ [slowMember])).rates.get
        (.counter .inOctets) = some sum ∧
        sum.rate = 31.0 ∧ sum.average = none := by
  have first_up : ∃ m ∈ averagedBond, m.attributes.isUp = true ∧
      m.rates.Has (.counter .inOctets) :=
    ⟨_, List.mem_cons_self, rfl, rfl⟩
  have still_up : ∃ m ∈ averagedBond ++ [slowMember], m.attributes.isUp = true ∧
      m.rates.Has (.counter .inOctets) :=
    ⟨_, List.mem_cons_self, rfl, rfl⟩
  constructor
  · obtain ⟨present, summed⟩ := group_rate "bond0" averagedBond (.counter .inOctets)
    obtain ⟨sum, computed⟩ := Option.isSome_iff_exists.1 (present.2 first_up)
    obtain ⟨⟨rate, averaged, average⟩, -⟩ := summed sum computed
    have parts : Measured.ratesOfUp averagedBond (.counter .inOctets) =
        [⟨10.0, some ⟨8.0, 5⟩⟩, ⟨20.0, some ⟨16.0, 5⟩⟩] := rfl
    rw [parts] at rate averaged average
    obtain ⟨⟨value, backlog⟩, kept⟩ :=
      Option.isSome_iff_exists.1 (averaged.2 ⟨5, by simp⟩)
    obtain ⟨shared, values⟩ := average _ kept
    obtain rfl : 5 = backlog := Option.some.inj (shared _ List.mem_cons_self)
    obtain rfl : (24.0 : Float) = value := Option.some.inj values
    exact ⟨sum, computed, (Option.some.inj rate).symm, kept⟩
  · obtain ⟨present, summed⟩ :=
      group_rate "bond0" (averagedBond ++ [slowMember]) (.counter .inOctets)
    obtain ⟨sum, computed⟩ := Option.isSome_iff_exists.1 (present.2 still_up)
    obtain ⟨⟨rate, averaged, -⟩, -⟩ := summed sum computed
    have parts : Measured.ratesOfUp (averagedBond ++ [slowMember]) (.counter .inOctets) =
        [⟨10.0, some ⟨8.0, 5⟩⟩, ⟨20.0, some ⟨16.0, 5⟩⟩,
          ⟨1.0, some ⟨1.0, 10⟩⟩] := rfl
    rw [parts] at rate averaged
    refine ⟨sum, computed, (Option.some.inj rate).symm,
      Option.not_isSome_iff_eq_none.1 fun kept => ?_⟩
    obtain ⟨backlog, shared⟩ := averaged.1 kept
    simp at shared
    omega

theorem Measured.measure_rates_eq (i : Interface) (time : Float) (averaging : Averaging)
    (store : SampleStore) :
    (measure i time averaging store).1.rates =
      .ofCounters (measure i time averaging store).1.rates.counters :=
  rfl

theorem Measured.measure_has_total (i : Interface) (time : Float) (averaging : Averaging)
    (store : SampleStore) (t : Total) :
    (measure i time averaging store).1.rates.Has (.total t) ↔
      (measure i time averaging store).1.rates.Has (.counter t.parts.1) ∧
        (measure i time averaging store).1.rates.Has (.counter t.parts.2) := by
  rw [TrafficRates.Has, measure_rates_eq, TrafficRates.get_ofCounters_total, sumIfBoth_isSome,
    Bool.and_eq_true]
  rfl

theorem Measured.mem_measureAll {time : Float} {averaging : Averaging} {members : List Interface}
    {store : SampleStore} {m : Measured}
    (member : m ∈ (measureAll time averaging members store).1) :
    ∃ i ∈ members, ∃ store, m = (measure i time averaging store).1 := by
  induction members generalizing store with
  | nil => cases member
  | cons i rest ih =>
    rcases List.mem_cons.1 member with rfl | member
    · exact ⟨i, List.mem_cons_self, store, rfl⟩
    · obtain ⟨j, listed, computed⟩ := ih member
      exact ⟨j, List.mem_cons_of_mem i listed, computed⟩

/-- A group of measured members has a total exactly if a member that is up has both parts of it. The
total goes with the sums of its parts unless each part is known of some member that is up, and no
such member has both. -/
theorem group_totals {members : List Measured}
    (measured : ∀ m ∈ members, ∃ i time averaging store, m =
      (Measured.measure i time averaging store).1)
    (group : String) (t : Total) :
    ((Measured.ofMembers group members).rates.Has (.total t) ↔
        ∃ m ∈ members, m.attributes.isUp = true ∧
          m.rates.Has (.counter t.parts.1) ∧ m.rates.Has (.counter t.parts.2)) ∧
      (((Measured.ofMembers group members).rates.Has (.total t) ↔
          (Measured.ofMembers group members).rates.Has (.counter t.parts.1) ∧
            (Measured.ofMembers group members).rates.Has (.counter t.parts.2)) ↔
        ((∃ m ∈ members, m.attributes.isUp = true ∧ m.rates.Has (.counter t.parts.1)) →
          (∃ m ∈ members, m.attributes.isUp = true ∧ m.rates.Has (.counter t.parts.2)) →
            ∃ m ∈ members, m.attributes.isUp = true ∧
              m.rates.Has (.counter t.parts.1) ∧ m.rates.Has (.counter t.parts.2))) := by
  have total : (Measured.ofMembers group members).rates.Has (.total t) ↔
      ∃ m ∈ members, m.attributes.isUp = true ∧ m.rates.Has (.counter t.parts.1) ∧
          m.rates.Has (.counter t.parts.2) := by
    rw [Measured.ofMembers_has]
    refine exists_congr fun m => and_congr_right fun member => and_congr_right fun _ => ?_
    obtain ⟨i, time, averaging, store, rfl⟩ := measured m member
    exact Measured.measure_has_total i time averaging store t
  refine ⟨total, ?_⟩
  rw [total, Measured.ofMembers_has, Measured.ofMembers_has]
  constructor
  · exact fun complete one other => complete.2 ⟨one, other⟩
  · intro together
    refine ⟨?_, fun ⟨one, other⟩ => together one other⟩
    rintro ⟨m, member, up, one, other⟩
    exact ⟨⟨m, member, up, one⟩, ⟨m, member, up, other⟩⟩

def halfDuplexPorts : List Interface :=
  [⟨bondAttributes "1" .up, .rates { PerCounter.missing with inOctets := some 10.0 }⟩,
    ⟨bondAttributes "2" .up, .rates { PerCounter.missing with outOctets := some 5.0 }⟩]

def fullDuplexPort : Interface :=
  ⟨bondAttributes "3" .up,
    .rates { PerCounter.missing with inOctets := some 1.0, outOctets := some 2.0 }⟩

def measuredBond (ports : List Interface) : List Measured :=
  (Measured.measureAll 5.0 ⟨none, none⟩ ports .empty).1

theorem total_of_fullDuplexPort :
    (∀ m ∈ measuredBond (halfDuplexPorts ++ [fullDuplexPort]),
        ∃ i time averaging store, m = (Measured.measure i time averaging store).1) ∧
      (Measured.ofMembers "bond0" (measuredBond (halfDuplexPorts ++ [fullDuplexPort]))).rates.Has
        (.total .octets) := by
  have measured : ∀ m ∈ measuredBond (halfDuplexPorts ++ [fullDuplexPort]),
      ∃ i time averaging store, m = (Measured.measure i time averaging store).1 := fun m member =>
    have ⟨i, _, store, computed⟩ := Measured.mem_measureAll member
    ⟨i, _, _, store, computed⟩
  exact ⟨measured, (group_totals measured "bond0" .octets).1.2
    ⟨_, List.mem_cons_of_mem _ (List.mem_cons_of_mem _ List.mem_cons_self), rfl, rfl, rfl⟩⟩

theorem halfDuplexPorts_without_total :
    (∀ m ∈ measuredBond halfDuplexPorts, ∃ i time averaging store, m =
      (Measured.measure i time averaging store).1) ∧
      (Measured.ofMembers "bond0" (measuredBond halfDuplexPorts)).rates.Has (.counter .inOctets) ∧
      (Measured.ofMembers "bond0" (measuredBond halfDuplexPorts)).rates.Has
        (.counter .outOctets) ∧
      ¬(Measured.ofMembers "bond0" (measuredBond halfDuplexPorts)).rates.Has (.total .octets) :=
  ⟨fun _ member =>
    have ⟨i, _, store, computed⟩ := Measured.mem_measureAll member
    ⟨i, _, _, store, computed⟩, rfl, rfl, nofun⟩

end IfaceMonitor
