import IfaceMonitor.Config.Settings
import IfaceMonitor.Rate.Averaged

/-!
The measurement of one interface in one cycle. Counters become rates through the stored samples,
ready rates are taken as they are; then the averages are updated, in counter order. A counter
without a rate leaves a gap, which says why.
-/

namespace IfaceMonitor

inductive RateGap
  | initialized (key : String)
  | failed (error : RateFault)

def RateGap.message : RateGap → String
  | initialized key => "Initialized: '" ++ key ++ "'"
  | failed error => error.message

def RateGap.isFailure : RateGap → Bool
  | initialized _ => false
  | failed _ => true

def Averaging.backlogOf (a : Averaging) : Counter → Option Nat
  | .inOctets => a.octets
  | .outOctets => a.octets
  | .inMcast => a.broadcastMulticast
  | .inBcast => a.broadcastMulticast
  | .outMcast => a.broadcastMulticast
  | .outBcast => a.broadcastMulticast
  | _ => none

def sampleKey (counter : Counter) (identity : String) : String :=
  counter.name ++ "." ++ identity

def observe (identity : String) (time : Float) (counters : RawCounters) :
    List Counter → SampleStore → List (Counter × RateResult) × SampleStore
  | [], store => ([], store)
  | counter :: rest, store =>
    match counters.get counter with
    | none => observe identity time counters rest store
    | some n =>
      let (outcome, store) := store.record (sampleKey counter identity) time n.toFloat
      let (outcomes, store) := observe identity time counters rest store
      ((counter, outcome) :: outcomes, store)

def RateResult.rate? : RateResult → Option Float
  | rate r => some r
  | _ => none

def RateResult.gap? (key : String) : RateResult → Option RateGap
  | rate _ => none
  | pending => some (.initialized key)
  | failed error => some (.failed error)

def ratesOf (outcomes : List (Counter × RateResult)) : PlainRates :=
  .ofFn fun counter => (outcomes.lookup counter).bind RateResult.rate?

def gapsOf (identity : String) (outcomes : List (Counter × RateResult)) :
    List (Counter × RateGap) :=
  outcomes.filterMap fun (counter, outcome) =>
    (outcome.gap? (sampleKey counter identity)).map (counter, ·)

def averageRate (identity : String) (time : Float) (averaging : Averaging) (counter : Counter)
    (rate : Float) (store : SampleStore) : AveragedRate × SampleStore :=
  match averaging.backlogOf counter with
  | none => ({ rate, average := none }, store)
  | some backlog =>
    let key := SampleStore.keyOfAverage (sampleKey counter identity)
    let (value, store) := store.updateAverage key time rate backlog
    ({ rate, average := some ⟨value, backlog⟩ }, store)

def averageRates (identity : String) (time : Float) (averaging : Averaging) (rates : PlainRates) :
    List Counter → SampleStore → List (Counter × AveragedRate) × SampleStore
  | [], store => ([], store)
  | counter :: rest, store =>
    match rates.get counter with
    | none => averageRates identity time averaging rates rest store
    | some rate =>
      let (averaged, store) := averageRate identity time averaging counter rate store
      let (others, store) := averageRates identity time averaging rates rest store
      ((counter, averaged) :: others, store)

structure Measured where
  attributes : Attributes
  rates : TrafficRates
  gaps : List (Counter × RateGap)

namespace Measured

def unmeasured (attributes : Attributes) : Measured :=
  { attributes, rates := .missing, gaps := [] }

def rawRates (i : Interface) (time : Float) (store : SampleStore) :
    PlainRates × List (Counter × RateGap) × SampleStore :=
  match i.traffic with
  | .rates rates => (rates, [], store)
  | .counters counters =>
    let (outcomes, store) := observe i.attributes.identity time counters Counter.all store
    (ratesOf outcomes, gapsOf i.attributes.identity outcomes, store)

def measure (i : Interface) (time : Float) (averaging : Averaging) (store : SampleStore) :
    Measured × SampleStore :=
  let (rates, gaps, store) := rawRates i time store
  let (averaged, store) := averageRates i.attributes.identity time averaging rates Counter.all store
  ({ attributes := i.attributes,
     rates := .ofCounters (.ofFn fun counter => averaged.lookup counter), gaps }, store)

def measureAll (time : Float) (averaging : Averaging) :
    List Interface → SampleStore → List Measured × SampleStore
  | [], store => ([], store)
  | i :: rest, store =>
    let (measured, store) := measure i time averaging store
    let (others, store) := measureAll time averaging rest store
    (measured :: others, store)

end Measured

end IfaceMonitor
