import IfaceMonitor.Rate.Measured
import Mathlib.Data.List.Nodup

namespace IfaceMonitor

theorem Counter.name_injective {c d : Counter} (h : c.name = d.name) : c = d := by
  have names : (Counter.all.map Counter.name).Nodup := by decide
  exact List.inj_on_of_nodup_map names c.mem_all d.mem_all h

theorem Counter.length_name (c : Counter) : 6 ≤ c.name.length ∧ c.name.length ≤ 10 := by
  cases c <;> decide

theorem Counter.nodup_all : Counter.all.Nodup := by
  decide

theorem sampleKey_inj {c d : Counter} {identity : String} :
    sampleKey c identity = sampleKey d identity ↔ c = d := by
  constructor
  · intro h
    simp only [sampleKey, String.append_left_inj] at h
    exact Counter.name_injective h
  · exact fun h => h ▸ rfl

theorem sampleKey_ne_keyOfAverage (c d : Counter) (identity : String) :
    sampleKey c identity ≠ SampleStore.keyOfAverage (sampleKey d identity) := by
  intro h
  have lengths := congrArg String.length h
  have suffix : ".average".length = 8 := by decide
  simp only [sampleKey, SampleStore.keyOfAverage, String.length_append, suffix] at lengths
  have := c.length_name
  have := d.length_name
  omega

theorem keyOfAverage_inj {c d : Counter} {identity : String} :
    SampleStore.keyOfAverage (sampleKey c identity) = SampleStore.keyOfAverage
      (sampleKey d identity) ↔ c = d := by
  simp only [SampleStore.keyOfAverage, String.append_left_inj, sampleKey_inj]

def Interface.count? (i : Interface) (c : Counter) : Option UInt64 :=
  match i.traffic with
  | .counters counters => counters.get c
  | .rates _ => none

theorem Interface.count?_counters {a : Attributes} {counters : RawCounters} (c : Counter) :
    Interface.count? ⟨a, .counters counters⟩ c = counters.get c := rfl

def sampleOf (time : Float) (n : UInt64) : Sample :=
  ⟨time, n.toFloat⟩

namespace SampleStore

def outcome (store : SampleStore) (key : String) (time : Float) (n : UInt64) : RateResult :=
  rateBetween key (store.get? key) (sampleOf time n)

theorem outcome_rate? (store : SampleStore) (key : String) (time : Float) (n : UInt64) :
    (store.outcome key time n).rate? =
      (store.get? key).bind fun previous =>
        if time - previous.time ≤ 0.0 then none
        else if n.toFloat - previous.value < 0.0 then none
        else some ((n.toFloat - previous.value) / (time - previous.time)) := by
  rw [outcome]
  cases store.get? key with
  | none => rfl
  | some previous =>
    change (if time - previous.time ≤ 0.0 then _ else if n.toFloat - previous.value <
      0.0 then _ else _ : RateResult).rate? =
      if time - previous.time ≤ 0.0 then none else if n.toFloat - previous.value <
        0.0 then none else _
    by_cases late : time - previous.time ≤ 0.0
    · rw [if_pos late, if_pos late]
      rfl
    · rw [if_neg late, if_neg late]
      by_cases lower : n.toFloat - previous.value < 0.0
      · rw [if_pos lower, if_pos lower]
        rfl
      · rw [if_neg lower, if_neg lower]
        rfl

end SampleStore

def eachCounter {β : Type} (step : Counter → SampleStore → Option (β × SampleStore)) :
    List Counter → SampleStore → List (Counter × β) × SampleStore
  | [], store => ([], store)
  | c :: rest, store =>
    match step c store with
    | none => eachCounter step rest store
    | some (b, store) =>
      ((c, b) :: (eachCounter step rest store).1, (eachCounter step rest store).2)

theorem eachCounter_get? {β : Type} {step : Counter → SampleStore → Option (β × SampleStore)}
    {k : String} {list : List Counter} (store : SampleStore)
    (unchanged : ∀ c ∈ list, ∀ store b after, step c store = some (b, after) →
      after.get? k = store.get? k) :
    (eachCounter step list store).2.get? k = store.get? k := by
  induction list generalizing store with
  | nil => rfl
  | cons c rest ih =>
    have others := fun d hd => unchanged d (List.mem_cons_of_mem c hd)
    rw [eachCounter]
    split
    · exact ih store others
    · rename_i b after taken
      rw [ih after others, unchanged c List.mem_cons_self store b after taken]

def seenAt {β : Type} (key : String) (result : Option (β × SampleStore)) :
    Option (β × Option Sample) :=
  result.map fun p => (p.1, p.2.get? key)

structure OwnKey {β : Type} (key : Counter → String)
    (step : Counter → SampleStore → Option (β × SampleStore)) : Prop where
  inj : ∀ c d, key c = key d → c = d
  reads : ∀ c store other, store.get? (key c) = other.get? (key c) →
    seenAt (key c) (step c store) = seenAt (key c) (step c other)
  writes : ∀ c store b after, step c store = some (b, after) → ∀ k,
    k ≠ key c → after.get? k = store.get? k

namespace OwnKey
variable {β : Type} {key : Counter → String}
  {step : Counter → SampleStore → Option (β × SampleStore)}

theorem fst_mem (list : List Counter) (store : SampleStore) :
    ∀ p ∈ (eachCounter step list store).1, p.1 ∈ list := by
  induction list generalizing store with
  | nil => intro p hp; cases hp
  | cons d rest ih =>
    intro p hp
    rw [eachCounter] at hp
    split at hp
    · exact List.mem_cons_of_mem d (ih store p hp)
    · rcases List.mem_cons.1 hp with rfl | hp
      · exact List.mem_cons_self
      · exact List.mem_cons_of_mem d (ih _ p hp)

theorem get?_of_ne (own : OwnKey key step) (list : List Counter) (store : SampleStore) {k : String}
    (h : ∀ c ∈ list, k ≠ key c) : (eachCounter step list store).2.get? k = store.get? k :=
  eachCounter_get? store fun c hc store b after taken => own.writes c store b after taken k (h c hc)

theorem lookup_get? (own : OwnKey key step) {list : List Counter} (nodup : list.Nodup)
    (store : SampleStore) {c : Counter} (hc : c ∈ list) :
    (eachCounter step list store).1.lookup c = (step c store).map (·.1) ∧
      (eachCounter step list store).2.get? (key c) =
        ((seenAt (key c) (step c store)).map (·.2)).getD (store.get? (key c)) := by
  induction list generalizing store with
  | nil => cases hc
  | cons d rest ih =>
    obtain ⟨fresh, nodup⟩ := List.nodup_cons.1 nodup
    rw [eachCounter]
    by_cases same : d = c
    · subst same
      have others : ∀ e ∈ rest, key d ≠ key e := fun e he heq =>
        fresh (own.inj d e heq ▸ he)
      cases hstep : step d store with
      | none =>
        refine ⟨?_, own.get?_of_ne rest store others⟩
        rw [Option.map_none, List.lookup_eq_none_iff]
        intro p hp
        have : d ≠ p.1 := fun h => fresh (h ▸ fst_mem rest store p hp)
        simpa using this
      | some p => exact ⟨List.lookup_cons_self, own.get?_of_ne rest p.2 others⟩
    · have hc : c ∈ rest := (List.mem_cons.1 hc).resolve_left fun h => same h.symm
      cases hstep : step d store with
      | none => exact ih nodup store hc
      | some p =>
        -- The step of `d` leaves the key of `c` alone, so `c` sees the store as it was.
        have unchanged : p.2.get? (key c) = store.get? (key c) :=
          own.writes d store p.1 p.2 hstep (key c) fun h => same (own.inj c d h).symm
        have seen := own.reads c p.2 store unchanged
        obtain ⟨said, left⟩ := ih nodup p.2 hc
        have said' : (step c p.2).map (·.1) = (step c store).map (·.1) := by
          simpa [seenAt, Option.map_map, Function.comp_def] using congrArg (Option.map (·.1)) seen
        refine ⟨?_, ?_⟩
        · rw [List.lookup_cons, beq_eq_false_iff_ne.2 (Ne.symm same)]
          exact said.trans said'
        · exact left.trans (by rw [seen, unchanged])

end OwnKey

section Observe
variable (identity : String) (time : Float) (counters : RawCounters)

def observeStep (c : Counter) (store : SampleStore) : Option (RateResult × SampleStore) :=
  (counters.get c).map fun n => store.record (sampleKey c identity) time n.toFloat

theorem observe_eq (list : List Counter) (store : SampleStore) :
    observe identity time counters list store =
      eachCounter (observeStep identity time counters) list store := by
  induction list generalizing store with
  | nil => rfl
  | cons c rest ih =>
    rw [observe, eachCounter, observeStep]
    cases counters.get c with
    | none => exact ih store
    | some n => simp only [Option.map_some, ih]

theorem observeStep_ownKey :
    OwnKey (sampleKey · identity) (observeStep identity time counters) where
  inj _ _ := sampleKey_inj.1
  reads c store other h := by
    cases hc : counters.get c <;> simp [observeStep, hc, seenAt, SampleStore.record, h]
  writes c store b after hstep k hk := by
    obtain ⟨n, -, hn⟩ := Option.map_eq_some_iff.1 hstep
    rw [← (Prod.mk.inj hn).2, Table.get?_insert, if_neg (Ne.symm hk)]

theorem observe_get?_of_ne (store : SampleStore) {k : String}
    (other : ∀ c, (counters.get c).isSome = true → k ≠ sampleKey c identity) :
    (observe identity time counters Counter.all store).2.get? k = store.get? k := by
  rw [observe_eq]
  apply eachCounter_get?
  intro c _ store b after taken
  obtain ⟨n, present, -⟩ := Option.map_eq_some_iff.1 taken
  have different : k ≠ sampleKey c identity := other c (by rw [present]; rfl)
  exact (observeStep_ownKey identity time counters).writes c store b after taken k different

theorem observe_get? (store : SampleStore) (c : Counter) :
    (observe identity time counters Counter.all store).2.get? (sampleKey c identity) =
      ((counters.get c).map (sampleOf time)).or (store.get? (sampleKey c identity)) := by
  rw [observe_eq, ((observeStep_ownKey identity time counters).lookup_get?
    Counter.nodup_all store c.mem_all).2]
  cases hc : counters.get c <;> simp [observeStep, hc, seenAt, SampleStore.record, sampleOf]

theorem observe_lookup (store : SampleStore) (c : Counter) :
    (observe identity time counters Counter.all store).1.lookup c =
      (counters.get c).map (store.outcome (sampleKey c identity) time) := by
  rw [observe_eq, ((observeStep_ownKey identity time counters).lookup_get?
    Counter.nodup_all store c.mem_all).1]
  cases hc : counters.get c <;>
    simp [observeStep, hc, SampleStore.record, SampleStore.outcome, sampleOf]

theorem ratesOf_observe (store : SampleStore) (c : Counter) :
    (ratesOf (observe identity time counters Counter.all store).1).get c =
      (counters.get c).bind fun n => (store.outcome (sampleKey c identity) time n).rate? := by
  rw [ratesOf, PerCounter.get_ofFn, observe_lookup]
  cases counters.get c <;> rfl

end Observe

namespace SampleStore

theorem updateAverage_get?_of_ne (store : SampleStore) {key k : String} (time value : Float)
    (backlog : Nat) (h : k ≠ key) :
    (store.updateAverage key time value backlog).2.get? k = store.get? k := by
  rw [updateAverage]
  split
  · rw [Table.get?_insert, if_neg (Ne.symm h)]
  · dsimp only
    split
    · rfl
    · rw [Table.get?_insert, if_neg (Ne.symm h)]

theorem updateAverage_congr {store other : SampleStore} {key : String}
    (h : store.get? key = other.get? key) (time value : Float) (backlog : Nat) :
    (store.updateAverage key time value backlog).1 =
      (other.updateAverage key time value backlog).1 ∧
      (store.updateAverage key time value backlog).2.get? key =
        (other.updateAverage key time value backlog).2.get? key := by
  simp only [updateAverage, h]
  cases hother : other.get? key with
  | none => simp
  | some previous =>
    dsimp only
    split <;> simp [h, hother]

end SampleStore

section Average
variable (identity : String) (time : Float) (averaging : Averaging) (rates : PlainRates)

theorem averageRate_rate (c : Counter) (r : Float) (store : SampleStore) :
    (averageRate identity time averaging c r store).1.rate = r := by
  rw [averageRate]
  split <;> rfl

def averageStep (c : Counter) (store : SampleStore) : Option (AveragedRate × SampleStore) :=
  (rates.get c).map fun r => averageRate identity time averaging c r store

theorem averageRates_eq (list : List Counter) (store : SampleStore) :
    averageRates identity time averaging rates list store =
      eachCounter (averageStep identity time averaging rates) list store := by
  induction list generalizing store with
  | nil => rfl
  | cons c rest ih =>
    rw [averageRates, eachCounter, averageStep]
    cases rates.get c with
    | none => exact ih store
    | some r => simp only [Option.map_some, ih]

theorem averageStep_ownKey :
    OwnKey (fun c => SampleStore.keyOfAverage (sampleKey c identity))
      (averageStep identity time averaging rates) where
  inj _ _ := keyOfAverage_inj.1
  reads c store other h := by
    cases hr : rates.get c with
    | none => simp [averageStep, hr]
    | some r =>
      cases hb : averaging.backlogOf c with
      | none => simp [averageStep, hr, averageRate, hb, seenAt, h]
      | some backlog =>
        obtain ⟨value, left⟩ := SampleStore.updateAverage_congr h time r backlog
        simp [averageStep, hr, averageRate, hb, seenAt, value, left]
  writes c store b after hstep k hk := by
    obtain ⟨r, -, hr⟩ := Option.map_eq_some_iff.1 hstep
    have left : (averageRate identity time averaging c r store).2 = after := congrArg Prod.snd hr
    rw [← left]
    cases hb : averaging.backlogOf c with
    | none => simp only [averageRate, hb]
    | some backlog =>
      simpa only [averageRate, hb] using SampleStore.updateAverage_get?_of_ne store
        time r backlog hk

theorem averageRates_get?_of_ne (list : List Counter) (store : SampleStore) {k : String}
    (other : ∀ c ∈ list, (rates.get c).isSome = true → (averaging.backlogOf c).isSome =
      true → k ≠ SampleStore.keyOfAverage (sampleKey c identity)) :
    (averageRates identity time averaging rates list store).2.get? k = store.get? k := by
  rw [averageRates_eq]
  apply eachCounter_get?
  intro c listed store b after taken
  obtain ⟨r, present, made⟩ := Option.map_eq_some_iff.1 taken
  cases averaged : averaging.backlogOf c with
  | none =>
    simp only [averageRate, averaged] at made
    rw [← (Prod.mk.inj made).2]
  | some backlog =>
    have different := other c listed (by rw [present]; rfl) (by rw [averaged]; rfl)
    exact (averageStep_ownKey identity time averaging rates).writes c store b after
      taken k different

theorem averageRates_lookup (store : SampleStore) (c : Counter) :
    (averageRates identity time averaging rates Counter.all store).1.lookup c =
      (rates.get c).map fun r => (averageRate identity time averaging c r store).1 := by
  rw [averageRates_eq, ((averageStep_ownKey identity time averaging rates).lookup_get?
    Counter.nodup_all store c.mem_all).1]
  cases hr : rates.get c <;> simp [averageStep, hr]

end Average

namespace Measured
variable (i : Interface) (time : Float) (averaging : Averaging) (store : SampleStore)

theorem measure_get? (c : Counter) :
    (measure i time averaging store).2.get? (sampleKey c i.attributes.identity) =
      ((i.count? c).map (sampleOf time)).or (store.get? (sampleKey c i.attributes.identity)) := by
  have averages (rates : PlainRates) (store : SampleStore) :=
    averageRates_get?_of_ne i.attributes.identity time averaging rates Counter.all store
      fun d _ _ _ => sampleKey_ne_keyOfAverage c d i.attributes.identity
  obtain ⟨a, traffic⟩ := i
  cases traffic with
  | rates rates => exact averages rates store
  | counters counters =>
    rw [Interface.count?_counters, ← observe_get? a.identity time counters store c]
    simp only [measure, rawRates, averages]

theorem measure_rate {c : Counter} {n : UInt64} (h : i.count? c = some n) :
    ((measure i time averaging store).1.rates.counters.get c).map (·.rate) =
      (store.outcome (sampleKey c i.attributes.identity) time n).rate? := by
  obtain ⟨a, traffic⟩ := i
  cases traffic with
  | rates rates => cases h
  | counters counters =>
    rw [Interface.count?_counters] at h
    have raw : (ratesOf (observe a.identity time counters Counter.all store).1).get c =
        (store.outcome (sampleKey c a.identity) time n).rate? := by
      rw [ratesOf_observe, h, Option.bind_some]
    simp only [measure, rawRates, TrafficRates.ofCounters, PerCounter.get_ofFn, averageRates_lookup,
      raw, Option.map_map, Function.comp_def, averageRate_rate, Option.map_id']

end Measured

end IfaceMonitor
