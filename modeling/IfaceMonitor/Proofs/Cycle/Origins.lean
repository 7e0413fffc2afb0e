import IfaceMonitor.Proofs.Cycle.Retry
import IfaceMonitor.Proofs.Rate.Finite

namespace IfaceMonitor

def Adds (p : String → Sample → Prop) (step : SampleStore → SampleStore) : Prop :=
  ∀ store key sample, (step store).get? key = some sample → p key sample ∨
    store.get? key = some sample

namespace Adds
variable {p : String → Sample → Prop} {f g : SampleStore → SampleStore}

theorem id : Adds p id :=
  fun _ _ _ => Or.inr

theorem comp (second : Adds p g) (first : Adds p f) : Adds p (g ∘ f) :=
  fun store key sample found =>
    (second (f store) key sample found).elim Or.inl (first store key sample)

theorem foldl {α : Type} {step : α → SampleStore → SampleStore} {xs : List α}
    (each : ∀ x ∈ xs, Adds p (step x)) :
    Adds p fun store => xs.foldl (fun store x => step x store) store := by
  induction xs with
  | nil => exact Adds.id
  | cons x rest ih =>
    exact (ih fun y hy => each y (List.mem_cons_of_mem x hy)).comp (each x List.mem_cons_self)

theorem insert {key : String} {sample : Sample} (written : p key sample) :
    Adds p (·.insert key sample) := by
  intro store other found h
  rw [Table.get?_insert] at h
  split at h
  · next same =>
    cases h
    exact Or.inl (same ▸ written)
  · exact Or.inr h

end Adds

section Measurement
variable {p : String → Sample → Prop} {time : Float}

theorem observe_adds (counted : ∀ key n, p key (sampleOf time n)) (identity : String)
    (counters : RawCounters) (list : List Counter) :
    Adds p fun store => (observe identity time counters list store).2 := by
  induction list with
  | nil => exact Adds.id
  | cons c rest ih =>
    simp only [observe]
    cases counters.get c with
    | none => exact ih
    | some n => exact ih.comp (Adds.insert (counted (sampleKey c identity) n))

variable {averaging : Averaging}
  (averaged : ∀ c identity value, (averaging.backlogOf c).isSome = true →
    p (SampleStore.keyOfAverage (sampleKey c identity)) ⟨time, value⟩)
include averaged

theorem averageRate_adds (identity : String) (c : Counter) (rate : Float) :
    Adds p fun store => (averageRate identity time averaging c rate store).2 := by
  simp only [averageRate]
  cases backlogged : averaging.backlogOf c with
  | none => exact Adds.id
  | some backlog =>
    have write (value : Float) :
        p (SampleStore.keyOfAverage (sampleKey c identity)) ⟨time, value⟩ :=
      averaged c identity value (by rw [backlogged]; rfl)
    intro store
    simp only [SampleStore.updateAverage]
    cases store.get? (SampleStore.keyOfAverage (sampleKey c identity)) with
    | none => exact Adds.insert (write rate) store
    | some previous =>
      dsimp only
      split
      · exact Adds.id store
      · exact Adds.insert (write _) store

theorem averageRates_adds (identity : String) (rates : PlainRates) (list : List Counter) :
    Adds p fun store => (averageRates identity time averaging rates list store).2 := by
  induction list with
  | nil => exact Adds.id
  | cons c rest ih =>
    simp only [averageRates]
    cases rates.get c with
    | none => exact ih
    | some rate => exact ih.comp (averageRate_adds averaged identity c rate)

variable (counted : ∀ key n, p key (sampleOf time n))
include counted

namespace Measured

theorem measure_adds (i : Interface) : Adds p fun store => (measure i time averaging store).2 := by
  obtain ⟨a, traffic⟩ := i
  cases traffic with
  | rates rates =>
    simp only [measure_rates]
    exact averageRates_adds averaged a.identity rates Counter.all
  | counters counters =>
    intro store
    simp only [measure_counters]
    -- The rates that are averaged come out of the store, so the two passes are no composition of
    -- steps.
    exact fun key sample found =>
      (averageRates_adds averaged a.identity _ Counter.all _ key sample found).elim Or.inl
        (observe_adds counted a.identity counters Counter.all store key sample)

theorem measureAll_adds (members : List Interface) :
    Adds p fun store => (measureAll time averaging members store).2 := by
  induction members with
  | nil => exact Adds.id
  | cons i rest ih =>
    change Adds p ((fun store => (measureAll time averaging rest store).2) ∘ fun store =>
      (measure i time averaging store).2)
    exact ih.comp (measure_adds averaged counted i)

end Measured

end Measurement

namespace CycleInput

def Averages (c : CycleInput) (key : String) : Prop :=
  ∃ counter identity, (c.settings.averaging.backlogOf counter).isSome = true ∧
    key = SampleStore.keyOfAverage (sampleKey counter identity)

structure Writes (c : CycleInput) (key : String) (sample : Sample) : Prop where
  time : sample.time = c.time
  value : sample.value.isFinite = true ∨ c.Averages key

theorem writes_counter (c : CycleInput) (key : String) (n : UInt64) :
    c.Writes key (sampleOf c.time n) :=
  ⟨rfl, Or.inl (isFinite_toFloat n)⟩

theorem writes_average (c : CycleInput) (counter : Counter) (identity : String) (value : Float)
    (backlogged : (c.settings.averaging.backlogOf counter).isSome = true) :
    c.Writes (SampleStore.keyOfAverage (sampleKey counter identity)) ⟨c.time, value⟩ :=
  ⟨rfl, Or.inr ⟨counter, identity, backlogged, rfl⟩⟩

theorem samplesAfter_adds (c : CycleInput) (item : String) (discovered : Discovered) :
    Adds c.Writes
      (Check.samplesAfter item (c.settings.withDiscovered discovered) c.interfaces c.time) := by
  unfold Check.samplesAfter
  cases (c.settings.withDiscovered discovered).discovered.group with
  | some config =>
    exact Measured.measureAll_adds c.writes_average c.writes_counter
      (config.membersIn item c.interfaces)
  | none =>
    refine Adds.foldl fun i _ => ?_
    simp only [Check.measureUnlessDown]
    split
    · exact Adds.id
    · exact Measured.measure_adds c.writes_average c.writes_counter i

theorem samplesAfterEach_adds (c : CycleInput) (item : String) :
    Adds c.Writes (HostStore.samplesAfterEach c.settings c.interfaces c.time c.services item) :=
  Adds.foldl fun service _ => c.samplesAfter_adds item service.parameters

end CycleInput

theorem HostStore.cycle_origins {c : CycleInput} {host written : HostStore}
    {reports : List ItemReport}
    (h : host.cycle c.services c.settings c.interfaces c.time = .ok (reports, written))
    {item key : String} {sample : Sample}
    (stored : (written.samplesOf item).get? key = some sample) :
    c.Writes key sample ∨ (host.samplesOf item).get? key = some sample := by
  cases services : c.services with
  | nil =>
    rw [services] at h
    cases h
    simp [samplesOf, get?_retain] at stored
  | cons first rest =>
    have required : Check.requireComparator none c.settings = .ok () :=
      required_of_cycle (services ▸ h)
    obtain ⟨others, left, checked, kept⟩ :=
      cycle_get? required c.interfaces c.time c.services host
    rw [checked] at h
    cases h
    rw [samplesOf, kept item] at stored
    split at stored
    · exact c.samplesAfterEach_adds item (host.samplesOf item) key sample stored
    · cases stored

end IfaceMonitor
