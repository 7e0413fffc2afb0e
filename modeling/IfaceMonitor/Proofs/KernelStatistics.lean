import IfaceMonitor.KernelStatistics
import IfaceMonitor.Proofs.Link.Names

namespace IfaceMonitor.KernelStatistics

def lines (text : String) : List (List Char) :=
  Text.splitWhen (· == '\n') text.toList

def fieldsOf (line : List Char) : List (List Char) :=
  Text.words ((line.dropWhile (· != ':')).drop 1)

def IsEntry (line : List Char) : Prop :=
  ':' ∈ line ∧ 16 ≤ (fieldsOf line).length

instance : DecidablePred IsEntry := fun _ => inferInstanceAs (Decidable (_ ∧ _))

def entries (text : String) : List (List Char) :=
  ((lines text).drop 2).filter fun line => IsEntry line

section Cut
variable {line : List Char} (colon : ':' ∈ line)

include colon

end Cut

end IfaceMonitor.KernelStatistics
