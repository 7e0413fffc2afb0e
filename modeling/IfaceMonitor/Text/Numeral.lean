import IfaceMonitor.Text.Blank

namespace IfaceMonitor.Text

def digitValue? (base : Nat) (c : Char) : Option Nat :=
  let n := c.toNat
  let value? :=
    if 48 ≤ n && n ≤ 57 then some (n - 48)
    else if 97 ≤ n && n ≤ 122 then some (n - 87)
    else if 65 ≤ n && n ≤ 90 then some (n - 55)
    else none
  value?.filter (· < base)

def readDigits? (base : Nat) (cs : List Char) : Option Nat :=
  if cs.isEmpty then none
  else cs.foldlM (fun n c => (digitValue? base c).map (base * n + ·)) 0

def dropPlus : List Char → List Char
  | '+' :: cs => cs
  | cs => cs

def readUnsigned? (base limit : Nat) (cs : List Char) : Option Nat :=
  (readDigits? base (dropPlus cs)).filter (· < limit)

def readWord? (s : String) : Option Nat :=
  readUnsigned? 10 (Nat.pow 2 64) s.toList

def readSigned? (s : String) : Option Int :=
  match s.toList with
  | '-' :: cs => ((readDigits? 10 cs).filter (· ≤ Nat.pow 2 63)).map fun n => -(n : Int)
  | cs => (readUnsigned? 10 (Nat.pow 2 63) cs).map Int.ofNat

def padLeft (width : Nat) (cs : List Char) : List Char :=
  List.replicate (width - cs.length) '0' ++ cs

def padded (width n : Nat) : String :=
  String.ofList (padLeft width (toString n).toList)

theorem length_padLeft (width : Nat) (cs : List Char) :
    (padLeft width cs).length = max width cs.length := by
  simp only [padLeft, List.length_append, List.length_replicate]
  omega

end IfaceMonitor.Text
