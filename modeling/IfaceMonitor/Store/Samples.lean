import IfaceMonitor.Json.Record

/-!
The samples kept between cycles. A sample store has the last sample of each key of one item, a host
store the sample stores of all items. `record` replaces the sample of its key whatever comes out, so
that the next cycle can compute a rate again.
-/

namespace IfaceMonitor

structure Sample where
  time : Float
  value : Float

def Sample.decode (json : Json) : Decoded Sample := do
  let (time, value) ← json.pair Json.double Json.double
  return ⟨time, value⟩

def Sample.encode (s : Sample) : Json :=
  .arr [.ofFloat s.time, .ofFloat s.value]

inductive RateFault
  | counterOverflow (key : String) (previous current : Float)
  | noTimeDifference (key : String) (previous current : Float)

def RateFault.message : RateFault → String
  | counterOverflow .. => "Value overflow"
  | noTimeDifference .. => "No time difference"

inductive RateResult
  | rate (perSecond : Float)
  | pending
  | failed (error : RateFault)

abbrev SampleStore := Table Sample

namespace SampleStore

def rateBetween (key : String) (previous : Option Sample) (sample : Sample) : RateResult :=
  match previous with
  | none => .pending
  | some previous =>
    let elapsed := sample.time - previous.time
    let change := sample.value - previous.value
    if elapsed ≤ 0.0 then .failed (.noTimeDifference key previous.time sample.time)
    else if change < 0.0 then .failed (.counterOverflow key previous.value sample.value)
    else .rate (change / elapsed)

def record (store : SampleStore) (key : String) (time value : Float) : RateResult × SampleStore :=
  let sample := ⟨time, value⟩
  (rateBetween key (store.get? key) sample, store.insert key sample)

def decode : Json → Decoded SampleStore :=
  Json.table Sample.decode

def encode (store : SampleStore) : Json :=
  Json.ofTable Sample.encode store

end SampleStore

abbrev HostStore := Table SampleStore

namespace HostStore

def samplesOf (host : HostStore) (name : String) : SampleStore :=
  (host.get? name).getD .empty

def retain (host : HostStore) (items : List String) : HostStore :=
  host.filterKeys items.contains

def decode : Json → Decoded HostStore :=
  Json.table SampleStore.decode

def encode (host : HostStore) : Json :=
  Json.ofTable SampleStore.encode host

end HostStore

end IfaceMonitor
