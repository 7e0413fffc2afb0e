import IfaceMonitor.Link.Attributes
import IfaceMonitor.Link.Counter

namespace IfaceMonitor

abbrev RawCounters := PerCounter (Option UInt64)

abbrev PlainRates := PerCounter (Option Float)

inductive Traffic
  | counters (counters : RawCounters)
  | rates (rates : PlainRates)

structure Interface where
  attributes : Attributes
  traffic : Traffic

abbrev Section := List Interface

def sumOfPresent (add : α → α → α) : Option α → Option α → Option α
  | some a, some b => some (add a b)
  | some a, none => some a
  | none, b => b

def addSaturating (a b : UInt64) : UInt64 :=
  if a.toNat + b.toNat < Nat.pow 2 64 then a + b else 0xFFFFFFFFFFFFFFFF

def RawCounters.add (a b : RawCounters) : RawCounters :=
  a.zipWith (sumOfPresent addSaturating) b

def PlainRates.add (a b : PlainRates) : PlainRates :=
  a.zipWith (sumOfPresent (· + ·)) b

def PlainRates.octetTotal (r : PlainRates) : Option Float :=
  match r.inOctets, r.outOctets with
  | some a, some b => some (a + b)
  | _, _ => none

def RawCounters.decode : Json → Decoded RawCounters :=
  PerCounter.decode fun value => do return (← value.natural (Nat.pow 2 64)).toUInt64

def RawCounters.encode : RawCounters → Json :=
  PerCounter.encode fun n => .int n.toNat

def PlainRates.decode : Json → Decoded PlainRates :=
  PerCounter.decode Json.double

def PlainRates.encode : PlainRates → Json :=
  PerCounter.encode Json.ofFloat

def Traffic.decode (members : List (String × Json)) : Decoded Traffic :=
  match members.find? fun m => m.1 == "counters" || m.1 == "rates" with
  | some ("counters", value) => do return .counters (← RawCounters.decode value)
  | some (_, value) => do return .rates (← PlainRates.decode value)
  | none => .error .shape

def Interface.decode (value : Json) : Decoded Interface := do
  let members ← value.members
  let fields ← Json.known ["attributes"] members
  let attributes ← Json.required fields "attributes" Attributes.decode
  return { attributes, traffic := ← Traffic.decode (← Json.collected ["attributes"] members) }

def Interface.encode (i : Interface) : Json :=
  .obj [("attributes", i.attributes.encode),
    match i.traffic with
    | .counters counters => ("counters", counters.encode)
    | .rates rates => ("rates", rates.encode)]

def Section.decode : Json → Decoded Section :=
  Json.list Interface.decode

def Section.encode (s : Section) : Json :=
  Json.ofList Interface.encode s

end IfaceMonitor
