import IfaceMonitor.Link.Interface
import IfaceMonitor.Store.MovingAverage

namespace IfaceMonitor

structure AveragedRate where
  rate : Float
  average : Option Average

namespace AveragedRate

def effective (r : AveragedRate) : Float :=
  match r.average with
  | some a => a.value
  | none => r.rate

def addAverages : Option Average → Option Average → Option Average
  | some a, some b => (a.add b).toOption
  | _, _ => none

def add (a b : AveragedRate) : AveragedRate :=
  { rate := a.rate + b.rate, average := addAverages a.average b.average }

end AveragedRate

def sumIfBoth (add : α → α → α) : Option α → Option α → Option α
  | some a, some b => some (add a b)
  | _, _ => none

theorem sumIfBoth_isSome (add : α → α → α) (a b : Option α) :
    (sumIfBoth add a b).isSome = (a.isSome && b.isSome) := by
  cases a <;> cases b <;> rfl

theorem sumIfBoth_eq_some {add : α → α → α} {a b : Option α} {sum : α} :
    sumIfBoth add a b = some sum ↔ ∃ x y, a = some x ∧ b = some y ∧ add x y = sum := by
  cases a <;> cases b <;> simp [sumIfBoth]

structure TrafficRates where
  counters : PerCounter (Option AveragedRate)
  inNonUnicast : Option AveragedRate
  outNonUnicast : Option AveragedRate
  octetTotal : Option AveragedRate

namespace TrafficRates

def missing : TrafficRates :=
  { counters := .missing, inNonUnicast := none, outNonUnicast := none, octetTotal := none }

def ofCounters (counters : PerCounter (Option AveragedRate)) : TrafficRates where
  counters := counters
  inNonUnicast := sumIfBoth .add counters.inMcast counters.inBcast
  outNonUnicast := sumIfBoth .add counters.outMcast counters.outBcast
  octetTotal := sumIfBoth .add counters.inOctets counters.outOctets

def add (a b : TrafficRates) : TrafficRates where
  counters := a.counters.zipWith (sumOfPresent .add) b.counters
  inNonUnicast := sumOfPresent .add a.inNonUnicast b.inNonUnicast
  outNonUnicast := sumOfPresent .add a.outNonUnicast b.outNonUnicast
  octetTotal := sumOfPresent .add a.octetTotal b.octetTotal

end TrafficRates

end IfaceMonitor
