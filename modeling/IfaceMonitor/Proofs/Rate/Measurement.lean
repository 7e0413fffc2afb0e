import IfaceMonitor.Proofs.Rate.Observation

namespace IfaceMonitor

theorem eachCounter_sublist {β : Type}
    {step : Counter → SampleStore → Option (β × SampleStore)} (list : List Counter)
    (store : SampleStore) : ((eachCounter step list store).1.map (·.1)).Sublist list := by
  induction list generalizing store with
  | nil => exact .slnil
  | cons c rest ih =>
    rw [eachCounter]
    split
    · exact (ih store).cons c
    · exact (ih _).cons_cons c

theorem RateResult.rate_or_gap (key : String) (outcome : RateResult) :
    (outcome.rate?.isSome = true ∧ outcome.gap? key = none) ∨
      (outcome.rate? = none ∧ ∃ gap, outcome.gap? key = some gap) := by
  cases outcome with
  | rate r => exact Or.inl ⟨rfl, rfl⟩
  | pending => exact Or.inr ⟨rfl, _, rfl⟩
  | failed error => exact Or.inr ⟨rfl, _, rfl⟩

section Gaps
variable (identity : String) (time : Float) (counters : RawCounters) (store : SampleStore)

theorem gapsOf_sublist (outcomes : List (Counter × RateResult)) :
    ((gapsOf identity outcomes).map (·.1)).Sublist (outcomes.map (·.1)) := by
  induction outcomes with
  | nil => exact .slnil
  | cons first rest ih =>
    rw [gapsOf, List.filterMap_cons]
    split
    · exact ih.cons first.1
    · rename_i pair gap
      obtain ⟨_, -, rfl⟩ := Option.map_eq_some_iff.1 gap
      exact ih.cons_cons first.1

theorem observe_sublist :
    ((observe identity time counters Counter.all store).1.map (·.1)).Sublist Counter.all := by
  rw [observe_eq]
  exact eachCounter_sublist Counter.all store

theorem lookup_eq_some_iff_mem {β : Type} {xs : List (Counter × β)}
    (distinct : (xs.map (·.1)).Nodup) {c : Counter} {b : β} :
    xs.lookup c = some b ↔ (c, b) ∈ xs := by
  have listed {b : β} (found : xs.lookup c = some b) : (c, b) ∈ xs := by
    obtain ⟨before, after, cut, -⟩ := List.lookup_eq_some_iff.1 found
    exact cut ▸ List.mem_append_right before List.mem_cons_self
  refine ⟨listed, fun member => ?_⟩
  cases found : xs.lookup c with
  | none => simpa using List.lookup_eq_none_iff.1 found (c, b) member
  | some other =>
    have same := List.inj_on_of_nodup_map distinct (listed found) member rfl
    rw [(Prod.mk.inj same).2]

theorem mem_gapsOf_observe {c : Counter} {gap : RateGap} :
    (c, gap) ∈ gapsOf identity (observe identity time counters Counter.all store).1 ↔
      ∃ n, counters.get c = some n ∧
        (store.outcome (sampleKey c identity) time n).gap? (sampleKey c identity) = some gap := by
  have distinct := (observe_sublist identity time counters store).nodup Counter.nodup_all
  have outcome_iff {outcome : RateResult} :
      (c, outcome) ∈ (observe identity time counters Counter.all store).1 ↔
        ∃ n, counters.get c = some n ∧
            store.outcome (sampleKey c identity) time n = outcome := by
    rw [← lookup_eq_some_iff_mem distinct, observe_lookup, Option.map_eq_some_iff]
  rw [gapsOf, List.mem_filterMap]
  constructor
  · rintro ⟨⟨d, outcome⟩, member, made⟩
    obtain ⟨_, left, same⟩ := Option.map_eq_some_iff.1 made
    cases same
    obtain ⟨n, present, rfl⟩ := outcome_iff.1 member
    exact ⟨n, present, left⟩
  · rintro ⟨n, present, left⟩
    exact ⟨(c, _), outcome_iff.2 ⟨n, present, rfl⟩, congrArg (Option.map (c, ·)) left⟩

end Gaps

namespace Measured

/-- What a measurement gives for an interface, and what it makes of the store. -/
structure Step (i : Interface) (time : Float) (averaging : Averaging) (store : SampleStore)
    (m : Measured) (after : SampleStore) : Prop where
  rate_or_gap : ∀ c, (i.count? c).isSome = true →
    ((m.rates.counters.get c).isSome = true ∧ ∀ gap, (c, gap) ∉ m.gaps) ∨
      (m.rates.counters.get c = none ∧ ∃! gap, (c, gap) ∈ m.gaps)
  nothing_else : ∀ counters, i.traffic = .counters counters → ∀ c, counters.get c = none →
    m.rates.counters.get c = none ∧ ∀ gap, (c, gap) ∉ m.gaps
  gaps_in_order : (m.gaps.map (·.1)).Sublist Counter.all
  sampled : ∀ c n, i.count? c = some n →
    after.get? (sampleKey c i.attributes.identity) = some ⟨time, n.toFloat⟩
  ready : ∀ rates, i.traffic = .rates rates → m.gaps = [] ∧
    ∀ c, (m.rates.counters.get c).map (·.rate) = rates.get c
  framed : ∀ key, after.get? key ≠ store.get? key →
    (∃ c, (i.count? c).isSome = true ∧ key = sampleKey c i.attributes.identity) ∨
      ∃ c, (m.rates.counters.get c).isSome = true ∧ (averaging.backlogOf c).isSome = true ∧
        key = SampleStore.keyOfAverage (sampleKey c i.attributes.identity)
  inNonUnicast : m.rates.inNonUnicast.isSome =
    (m.rates.counters.inMcast.isSome && m.rates.counters.inBcast.isSome)
  outNonUnicast : m.rates.outNonUnicast.isSome =
    (m.rates.counters.outMcast.isSome && m.rates.counters.outBcast.isSome)
  octetTotal : m.rates.octetTotal.isSome =
    (m.rates.counters.inOctets.isSome && m.rates.counters.outOctets.isSome)

variable (i : Interface) (time : Float) (averaging : Averaging) (store : SampleStore)

theorem measure_gaps : (measure i time averaging store).1.gaps = (rawRates i time store).2.1 := by
  simp only [measure]

theorem measure_store :
    (measure i time averaging store).2 =
      (averageRates i.attributes.identity time averaging (rawRates i time store).1 Counter.all
        (rawRates i time store).2.2).2 := by
  simp only [measure]

theorem measure_raw (c : Counter) :
    ((measure i time averaging store).1.rates.counters.get c).map (·.rate) =
      (rawRates i time store).1.get c := by
  simp only [measure, TrafficRates.ofCounters, PerCounter.get_ofFn, averageRates_lookup,
    Option.map_map, Function.comp_def, averageRate_rate, Option.map_id']

theorem rawRates_counters (a : Attributes) (counters : RawCounters) :
    rawRates ⟨a, .counters counters⟩ time store =
      (ratesOf (observe a.identity time counters Counter.all store).1,
        gapsOf a.identity (observe a.identity time counters Counter.all store).1,
        (observe a.identity time counters Counter.all store).2) := by
  simp only [rawRates]

theorem mem_measure_gaps {a : Attributes} {counters : RawCounters} {c : Counter} {gap : RateGap} :
    (c, gap) ∈ (measure ⟨a, .counters counters⟩ time averaging store).1.gaps ↔
      ∃ n, counters.get c = some n ∧
        (store.outcome (sampleKey c a.identity) time n).gap? (sampleKey c a.identity) =
          some gap := by
  rw [measure_gaps, rawRates_counters, mem_gapsOf_observe]

theorem mem_measure_gaps_of_count {c : Counter} {n : UInt64} (present : i.count? c = some n)
    (gap : RateGap) :
    (c, gap) ∈ (measure i time averaging store).1.gaps ↔
      (store.outcome (sampleKey c i.attributes.identity) time n).gap?
        (sampleKey c i.attributes.identity) = some gap := by
  obtain ⟨a, traffic⟩ := i
  cases traffic with
  | rates rates => cases present
  | counters counters =>
    rw [Interface.count?_counters] at present
    rw [mem_measure_gaps, present]
    simp

theorem measure_rate_or_gap {c : Counter} (present : (i.count? c).isSome = true) :
    (((measure i time averaging store).1.rates.counters.get c).isSome = true ∧
        ∀ gap, (c, gap) ∉ (measure i time averaging store).1.gaps) ∨
      ((measure i time averaging store).1.rates.counters.get c = none ∧
        ∃! gap, (c, gap) ∈ (measure i time averaging store).1.gaps) := by
  obtain ⟨n, present⟩ := Option.isSome_iff_exists.1 present
  have rate := measure_rate i time averaging store present
  have gaps := mem_measure_gaps_of_count i time averaging store present
  rcases RateResult.rate_or_gap (sampleKey c i.attributes.identity)
    (store.outcome (sampleKey c i.attributes.identity) time n)
    with ⟨obtained, no_gap⟩ | ⟨missing, gap, left⟩
  · refine Or.inl ⟨?_, fun gap member => ?_⟩
    · rw [← Option.isSome_map, rate]
      exact obtained
    · rw [gaps, no_gap] at member
      cases member
  · refine Or.inr ⟨?_, gap, (gaps gap).2 left, fun other member => ?_⟩
    · rw [missing] at rate
      exact Option.map_eq_none_iff.1 rate
    · exact (Option.some.inj (left.symm.trans ((gaps other).1 member))).symm

theorem measure_get?_of_ne {key : String}
    (no_sample : ∀ c, (i.count? c).isSome = true → key ≠ sampleKey c i.attributes.identity)
    (no_average : ∀ c, ((measure i time averaging store).1.rates.counters.get c).isSome = true →
      (averaging.backlogOf c).isSome = true →
      key ≠ SampleStore.keyOfAverage (sampleKey c i.attributes.identity)) :
    (measure i time averaging store).2.get? key = store.get? key := by
  -- The averages are written over the store that has the samples already, so they are taken off
  -- first.
  have averaged : (measure i time averaging store).2.get? key =
      (rawRates i time store).2.2.get? key := by
    rw [measure_store]
    apply averageRates_get?_of_ne
    intro c _ obtained
    rw [← measure_raw i time averaging, Option.isSome_map] at obtained
    exact no_average c obtained
  rw [averaged]
  obtain ⟨a, traffic⟩ := i
  cases traffic with
  | rates rates => rfl
  | counters counters =>
    rw [rawRates_counters]
    exact observe_get?_of_ne a.identity time counters store no_sample

/-- One measurement, whatever the interface carries and whatever is stored. -/
theorem measure_step :
    Step i time averaging store (measure i time averaging store).1
      (measure i time averaging store).2 where
  rate_or_gap c := measure_rate_or_gap i time averaging store
  nothing_else counters given c missing := by
    obtain ⟨a, traffic⟩ := i
    cases given
    constructor
    · have raw := measure_raw ⟨a, .counters counters⟩ time averaging store c
      rw [rawRates_counters, ratesOf_observe, missing] at raw
      exact Option.map_eq_none_iff.1 raw
    · intro gap member
      obtain ⟨n, present, -⟩ := (mem_measure_gaps time averaging store).1 member
      rw [missing] at present
      cases present
  gaps_in_order := by
    rw [measure_gaps]
    obtain ⟨a, traffic⟩ := i
    cases traffic with
    | rates rates => exact List.nil_sublist _
    | counters counters =>
      rw [rawRates_counters]
      exact (gapsOf_sublist a.identity _).trans (observe_sublist a.identity time counters store)
  sampled c n present := by
    rw [measure_get?, present]
    rfl
  ready rates given := by
    obtain ⟨a, traffic⟩ := i
    cases given
    exact ⟨measure_gaps ⟨a, .rates rates⟩ time averaging store,
      measure_raw ⟨a, .rates rates⟩ time averaging store⟩
  framed key changed := by
    by_contra untouched
    obtain ⟨no_sample, no_average⟩ := not_or.1 untouched
    refine changed (measure_get?_of_ne i time averaging store ?_ ?_)
    · exact fun c present same => no_sample ⟨c, present, same⟩
    · exact fun c obtained averaged same => no_average ⟨c, obtained, averaged, same⟩
  inNonUnicast := sumIfBoth_isSome _ _ _
  outNonUnicast := sumIfBoth_isSome _ _ _
  octetTotal := sumIfBoth_isSome _ _ _

end Measured

end IfaceMonitor
