import IfaceMonitor.Proofs.Decimal.Difference
import IfaceMonitor.Proofs.Rate.Observation

/-!
A measurement that is done again at the same time. Samples are overwritten whatever was stored, so
the second time leaves the same ones; averages are not, because a stored sample that is not older
refuses them. Keys of samples and of averages may meet, so both are followed through one description
of a step (`Writes`), which says that a second step changes nothing (`Repeatable.idempotent`).
-/

namespace IfaceMonitor

theorem elapsed_self {time : Float} (finite : time.isFinite = true) : time - time ≤ 0.0 :=
  (Rounding.sub_le_zero_iff finite).2 (Comparison.le_refl_of_isFinite finite)

def SampleStore.UpToDate (store : SampleStore) (time : Float) (key : String) : Prop :=
  ∃ sample, store.get? key = some sample ∧ time - sample.time ≤ 0.0

/-- A step writes some samples whatever is stored, and brings the averages under some keys up to
date. It leaves alone what is up to date, and everything else once all of its keys are. -/
structure Writes (time : Float) (step : SampleStore → SampleStore)
    (samples : String → Option Sample) (averages : String → Prop) : Prop where
  written : ∀ key sample, samples key = some sample → ∀ store,
    (step store).get? key = some sample
  current : ∀ key sample, samples key = some sample → time - sample.time ≤ 0.0
  kept : ∀ key, samples key = none → ∀ store : SampleStore, store.UpToDate time key →
    (step store).get? key = store.get? key
  averaged : ∀ key, averages key → ∀ store, (step store).UpToDate time key
  settled : ∀ store : SampleStore,
    (∀ key, (samples key).isSome = true ∨ averages key → store.UpToDate time key) →
    ∀ key, samples key = none → (step store).get? key = store.get? key

def Repeatable (time : Float) (step : SampleStore → SampleStore) : Prop :=
  ∃ samples averages, Writes time step samples averages

section Steps
variable {time : Float} {f g : SampleStore → SampleStore}

theorem Writes.upToDate {samples : String → Option Sample} {averages : String → Prop}
    (writes : Writes time f samples averages) {store : SampleStore} {key : String}
    (h : store.UpToDate time key) :
    (f store).UpToDate time key := by
  cases sampled : samples key with
  | none =>
    obtain ⟨sample, found, late⟩ := h
    exact ⟨sample, (writes.kept key sampled store ⟨sample, found, late⟩).trans found, late⟩
  | some sample =>
    exact ⟨sample, writes.written key sample sampled store, writes.current key sample sampled⟩

theorem Writes.id : Writes time id (fun _ => none) (fun _ => False) where
  written _ _ h := by cases h
  current _ _ h := by cases h
  kept _ _ _ _ := rfl
  averaged _ h := h.elim
  settled _ _ _ _ := rfl

theorem Writes.comp {later earlier : String → Option Sample} {others averages : String → Prop}
    (second : Writes time g later others) (first : Writes time f earlier averages) :
    Writes time (g ∘ f) (fun key => (later key).or (earlier key))
      (fun key => others key ∨ averages key) where
  written key sample h store := by
    rcases Option.or_eq_some_iff.1 h with late | ⟨untouched, early⟩
    · exact second.written key sample late (f store)
    -- A sample of the first step is up to date, so the second step does not average over it.
    · have found := first.written key sample early store
      exact (second.kept key untouched (f store)
        ⟨sample, found, first.current key sample early⟩).trans found
  current key sample h := by
    rcases Option.or_eq_some_iff.1 h with late | ⟨-, early⟩
    · exact second.current key sample late
    · exact first.current key sample early
  kept key h store recent := by
    obtain ⟨late, early⟩ := Option.or_eq_none_iff.1 h
    exact (second.kept key late (f store) (first.upToDate recent)).trans
      (first.kept key early store recent)
  averaged key h store := by
    rcases h with other | average
    · exact second.averaged key other (f store)
    · exact second.upToDate (first.averaged key average store)
  settled store recent key h := by
    obtain ⟨late, early⟩ := Option.or_eq_none_iff.1 h
    have before : (f store).get? key = store.get? key := by
      refine first.settled store (fun k hk => recent k ?_) key early
      exact hk.imp (fun sampled => by rw [Option.isSome_or, sampled, Bool.or_true]) Or.inr
    refine (second.settled (f store) (fun k hk => first.upToDate (recent k ?_)) key late).trans
      before
    exact hk.imp (fun sampled => by rw [Option.isSome_or, sampled, Bool.true_or]) Or.inl

theorem Repeatable.id : Repeatable time id :=
  ⟨_, _, Writes.id⟩

theorem Repeatable.comp (second : Repeatable time g) (first : Repeatable time f) :
    Repeatable time (g ∘ f) := by
  obtain ⟨later, others, second⟩ := second
  obtain ⟨earlier, averages, first⟩ := first
  exact ⟨_, _, second.comp first⟩

theorem Repeatable.foldl {α : Type} {step : α → SampleStore → SampleStore} {xs : List α}
    (each : ∀ x ∈ xs, Repeatable time (step x)) :
    Repeatable time fun store => xs.foldl (fun store x => step x store) store := by
  induction xs with
  | nil => exact Repeatable.id
  | cons x rest ih =>
    exact (ih fun y hy => each y (List.mem_cons_of_mem x hy)).comp (each x List.mem_cons_self)

theorem Repeatable.idempotent (repeatable : Repeatable time f) (store : SampleStore) :
    f (f store) = f store := by
  obtain ⟨samples, averages, writes⟩ := repeatable
  apply Table.ext_get?
  intro key
  cases sampled : samples key with
  | some sample => rw [writes.written key sample sampled, writes.written key sample sampled]
  | none =>
    refine writes.settled (f store) ?_ key sampled
    rintro k (sample | average)
    · obtain ⟨sample, hs⟩ := Option.isSome_iff_exists.1 sample
      exact ⟨sample, writes.written k sample hs store, writes.current k sample hs⟩
    · exact writes.averaged k average store

end Steps

theorem SampleStore.updateAverage_of_upToDate {store : SampleStore} {time value : Float}
    {key : String} {backlog : Nat} (recent : store.UpToDate time key) :
    (store.updateAverage key time value backlog).2 = store := by
  obtain ⟨sample, found, late⟩ := recent
  simp only [updateAverage, found, if_pos late]

section Average
variable {time : Float} (finite : time.isFinite = true) (identity : String) (averaging : Averaging)
include finite

theorem updateAverage_upToDate (store : SampleStore) (key : String) (value : Float)
    (backlog : Nat) :
    (store.updateAverage key time value backlog).2.UpToDate time key := by
  unfold SampleStore.updateAverage
  cases found : store.get? key with
  | none =>
    refine ⟨⟨time, value⟩, ?_, elapsed_self finite⟩
    rw [Table.get?_insert, if_pos rfl]
  | some previous =>
    by_cases late : time - previous.time ≤ 0.0
    · refine ⟨previous, ?_, late⟩
      simp only [if_pos late, found]
    · simp only [if_neg late, SampleStore.UpToDate, Table.get?_insert, if_pos]
      exact ⟨_, rfl, elapsed_self finite⟩

theorem updateAverage_writes (key : String) (value : Float) (backlog : Nat) :
    Writes time (fun store => (store.updateAverage key time value backlog).2)
      (fun _ => none) (· = key) where
  written _ _ h := by cases h
  current _ _ h := by cases h
  kept k _ store recent := by
    by_cases same : k = key
    · subst same
      rw [SampleStore.updateAverage_of_upToDate recent]
    · exact SampleStore.updateAverage_get?_of_ne store time value backlog same
  averaged k same store := by
    subst same
    exact updateAverage_upToDate finite store k value backlog
  settled store recent k _ := by
    rw [SampleStore.updateAverage_of_upToDate (recent key (Or.inr rfl))]

theorem averageRates_writes (rates : PlainRates) (list : List Counter) :
    ∃ averages, Writes time
      (fun store => (averageRates identity time averaging rates list store).2) (fun _ => none)
      averages := by
  induction list with
  | nil => exact ⟨_, Writes.id⟩
  | cons c rest ih =>
    obtain ⟨averages, others⟩ := ih
    simp only [averageRates]
    cases rates.get c with
    | none => exact ⟨averages, others⟩
    | some rate =>
      simp only [averageRate]
      cases averaging.backlogOf c with
      | none => exact ⟨averages, others⟩
      | some backlog =>
        exact ⟨_, others.comp (updateAverage_writes finite
          (SampleStore.keyOfAverage (sampleKey c identity)) rate backlog)⟩

omit finite in
theorem averageRates_without_rates {rates : PlainRates} (nothing : ∀ c, rates.get c = none)
    (list : List Counter) (store : SampleStore) :
    (averageRates identity time averaging rates list store).2 = store := by
  induction list with
  | nil => rfl
  | cons c rest ih =>
    rw [averageRates, nothing c]
    exact ih

end Average

section Observe
variable {time : Float} (identity : String) (counters : RawCounters)

def observed (time : Float) (identity : String) (counters : RawCounters) (key : String) :
    Option Sample :=
  (observe identity time counters Counter.all .empty).2.get? key

theorem observed_sampleKey (c : Counter) :
    observed time identity counters (sampleKey c identity) =
      (counters.get c).map (sampleOf time) := by
  rw [observed, observe_get?, Table.get?_empty, Option.or_none]

theorem observed_of_ne {key : String} (other : ∀ c, key ≠ sampleKey c identity) :
    observed time identity counters key = none := by
  rw [observed, observe_get?_of_ne identity time counters _ fun c _ => other c, Table.get?_empty]

theorem observe_get?_eq (store : SampleStore) (key : String) :
    (observe identity time counters Counter.all store).2.get? key =
      (observed time identity counters key).or (store.get? key) := by
  by_cases sampled : ∃ c, key = sampleKey c identity
  · obtain ⟨c, rfl⟩ := sampled
    rw [observe_get?, observed_sampleKey]
  · have other : ∀ c, key ≠ sampleKey c identity := not_exists.1 sampled
    rw [observed_of_ne identity counters other, Option.none_or,
      observe_get?_of_ne identity time counters _ fun c _ => other c]

theorem time_of_observed {key : String} {sample : Sample}
    (h : observed time identity counters key = some sample) :
    sample.time = time := by
  by_cases sampled : ∃ c, key = sampleKey c identity
  · obtain ⟨c, rfl⟩ := sampled
    rw [observed_sampleKey] at h
    obtain ⟨n, -, rfl⟩ := Option.map_eq_some_iff.1 h
    rfl
  · rw [observed_of_ne identity counters (not_exists.1 sampled)] at h
    cases h

theorem no_rates_of_upToDate {store : SampleStore}
    (recent : ∀ key, (observed time identity counters key).isSome = true →
      store.UpToDate time key)
    (c : Counter) :
    (ratesOf (observe identity time counters Counter.all store).1).get c = none := by
  rw [ratesOf_observe]
  cases present : counters.get c with
  | none => rfl
  | some n =>
    obtain ⟨sample, found, late⟩ :=
      recent (sampleKey c identity) (by rw [observed_sampleKey, present]; rfl)
    change (store.outcome (sampleKey c identity) time n).rate? = none
    rw [SampleStore.outcome_rate?, found]
    exact if_pos late

end Observe

namespace Measured

theorem measure_rates (a : Attributes) (rates : PlainRates) (time : Float) (averaging : Averaging)
    (store : SampleStore) :
    (measure ⟨a, .rates rates⟩ time averaging store).2 =
      (averageRates a.identity time averaging rates Counter.all store).2 := by
  simp only [measure, rawRates]

theorem measure_counters (a : Attributes) (counters : RawCounters) (time : Float)
    (averaging : Averaging) (store : SampleStore) :
    (measure ⟨a, .counters counters⟩ time averaging store).2 =
      (averageRates a.identity time averaging
        (ratesOf (observe a.identity time counters Counter.all store).1) Counter.all
        (observe a.identity time counters Counter.all store).2).2 := by
  simp only [measure, rawRates]

variable {time : Float} (finite : time.isFinite = true) (averaging : Averaging)
include finite

theorem measure_repeatable (i : Interface) :
    Repeatable time fun store => (measure i time averaging store).2 := by
  obtain ⟨a, traffic⟩ := i
  cases traffic with
  | rates rates =>
    simp only [measure_rates]
    obtain ⟨averages, writes⟩ :=
      averageRates_writes finite a.identity averaging rates Counter.all
    exact ⟨_, averages, writes⟩
  | counters counters =>
    simp only [measure_counters]
    -- Averages follow rates, and there are none any more once the samples of the counters are up to
    -- date.
    refine ⟨observed time a.identity counters, fun _ => False, ?_⟩
    have current (key : String) (sample : Sample)
        (h : observed time a.identity counters key = some sample) :
        time - sample.time ≤ 0.0 := by
      rw [time_of_observed a.identity counters h]
      exact elapsed_self finite
    have left (store : SampleStore) (key : String) :
        (observe a.identity time counters Counter.all store).2.get? key =
          (observed time a.identity counters key).or (store.get? key) :=
            observe_get?_eq a.identity counters store key
    have averages (store : SampleStore) := averageRates_writes finite a.identity averaging
      (ratesOf (observe a.identity time counters Counter.all store).1) Counter.all
    exact {
      written := fun key sample h store => by
        obtain ⟨_, writes⟩ := averages store
        have found : (observe a.identity time counters Counter.all store).2.get? key =
            some sample := by
          rw [left, h, Option.some_or]
        exact (writes.kept key rfl _ ⟨sample, found, current key sample h⟩).trans found
      current := current
      kept := fun key h store recent => by
        obtain ⟨_, writes⟩ := averages store
        have found : (observe a.identity time counters Counter.all store).2.get? key =
            store.get? key := by
          rw [left, h, Option.none_or]
        refine (writes.kept key rfl _ ?_).trans found
        rwa [SampleStore.UpToDate, found]
      averaged := fun _ h => h.elim
      settled := fun store recent key h => by
        have nothing := no_rates_of_upToDate a.identity counters fun k hk => recent k (Or.inl hk)
        rw [averageRates_without_rates a.identity averaging nothing, left, h, Option.none_or] }

theorem measureAll_repeatable (members : List Interface) :
    Repeatable time fun store => (measureAll time averaging members store).2 := by
  induction members with
  | nil => exact Repeatable.id
  | cons i rest ih =>
    change Repeatable time
      ((fun store => (measureAll time averaging rest store).2) ∘ fun store =>
        (measure i time averaging store).2)
    exact ih.comp (measure_repeatable finite averaging i)

end Measured

end IfaceMonitor
