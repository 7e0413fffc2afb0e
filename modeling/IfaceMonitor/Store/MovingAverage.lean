import IfaceMonitor.Store.Samples

/-!
Moving averages. An average is kept as a sample: the time of the last value and the average then.
The backlog is its half-life, so after that many minutes the old average makes up half of the new
one.
-/

namespace IfaceMonitor

structure Average where
  value : Float
  backlog : Nat

inductive AverageError
  | backlogMismatch (left right : Nat)

def AverageError.message : AverageError → String
  | backlogMismatch left right =>
    "cannot add averages with different backlogs (" ++ toString left ++ " min and " ++
      toString right ++ " min)"

def Average.add (a b : Average) : Except AverageError Average :=
  if a.backlog = b.backlog then .ok ⟨a.value + b.value, a.backlog⟩
  else .error (.backlogMismatch a.backlog b.backlog)

namespace SampleStore

def keyOfAverage (key : String) : String :=
  key ++ ".average"

/-- The weight of the old average after `elapsed` seconds; a backlog of zero counts as one
minute. -/
def decay (elapsed : Float) (backlog : Nat) : Float :=
  Float.pow 0.5 (elapsed / (60.0 * (Nat.max backlog 1).toUInt64.toFloat))

/-- Adds a value to the average under `key`. The first value is the average; a value that is not
later than the stored average leaves it as it is. -/
def updateAverage (store : SampleStore) (key : String) (time value : Float) (backlog : Nat) :
    Float × SampleStore :=
  match store.get? key with
  | none => (value, store.insert key ⟨time, value⟩)
  | some previous =>
    let elapsed := time - previous.time
    if elapsed ≤ 0.0 then (previous.value, store)
    else
      let weight := decay elapsed backlog
      let mean := previous.value * weight + value * (1.0 - weight)
      (mean, store.insert key ⟨time, mean⟩)

end SampleStore

end IfaceMonitor
