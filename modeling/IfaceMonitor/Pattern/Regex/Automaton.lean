import IfaceMonitor.Pattern.Regex.Basic

/-!
The size of the automata of an expression. An expression is compiled into an automaton that reads
the bytes of a subject forward and one that reads them backward; expressions whose automata would be
too large are refused. A state takes `stateSize` bytes, besides `edgeSize` for every labelled edge
of a state with several of them and `armSize` for every way out of a branch.
-/

namespace IfaceMonitor.Pattern

open Unicode (CharSet)

namespace Automaton

def stateSize : Nat := 32

def edgeSize : Nat := 8

def armSize : Nat := 4

def sparse (edges : Nat) : Nat :=
  stateSize + edgeSize * edges

def branches (arms : Nat) : Nat :=
  2 * stateSize + armSize * arms

/-- The encoded form of the code points of a range, byte by byte, each byte in a range. -/
abbrev ByteRanges := List (Nat × Nat)

def encodings : List (Nat × Nat × Nat × Nat) :=
  [(0, 0, 0x7F, 0), (1, 0x80, 0x7FF, 0xC0), (2, 0x800, 0xFFFF, 0xE0), (3, 0x10000, 0x10FFFF, 0xF0)]

def cutBytes (mark : Nat) : Nat → Nat → Nat → List ByteRanges
  | 0, a, b => [[(mark + a, mark + b)]]
  | n + 1, a, b =>
    let unit := Nat.pow 64 (n + 1)
    let (high, low) := (a / unit, a % unit)
    let (high', low') := (b / unit, b % unit)
    let within := fun (head low low' : Nat) =>
      (cutBytes 0x80 n low low').map ((mark + head, mark + head) :: ·)
    if high == high' then within high low low'
    else
      let first := if low == 0 then high else high + 1
      let last := if low' + 1 == unit then high' + 1 else high'
      (if low == 0 then [] else within high low (unit - 1)) ++
        (if first < last then
          [(mark + first, mark + (last - 1)) :: List.replicate (n + 1) (0x80, 0xBF)]
        else []) ++
        (if low' + 1 == unit then [] else within high' 0 low')

def byteRanges (s : CharSet) : List ByteRanges :=
  s.ranges.flatMap fun (a, b) =>
    encodings.flatMap fun (n, low, high, mark) =>
      if a ≤ high && low ≤ b then cutBytes mark n (Nat.max a low) (Nat.min b high) else []

def byHead : List ByteRanges → List ((Nat × Nat) × List ByteRanges)
  | [] => []
  | [] :: rest => byHead rest
  | (r :: tail) :: rest =>
    match byHead rest with
    | (s, tails) :: more =>
      if r = s then (s, tail :: tails) :: more else (r, [tail]) :: (s, tails) :: more
    | [] => [(r, [tail])]

abbrev Node := List ((Nat × Nat) × Nat)

def numberOf (known : List Node) (node : Node) : Nat × List Node :=
  match known.findIdx? (· == node) with
  | some i => (i + 1, known)
  | none => (known.length + 1, known ++ [node])

/-- The state from which sequences are read; zero is the state behind them, `fuel` is their
length. -/
def nodeOf : Nat → List ByteRanges → List Node → Nat × List Node
  | 0, _, known => (0, known)
  | fuel + 1, sequences, known =>
    match byHead sequences with
    | [] => (0, known)
    | groups =>
      let (edges, known) := groups.foldl (fun (edges, known) (range, tails) =>
        let (target, known) := nodeOf fuel tails known
        ((range, target) :: edges, known)) ([], known)
      numberOf known edges.reverse

def treeEdges : Nat → List ByteRanges → Nat
  | 0, _ => 0
  | fuel + 1, sequences =>
    ((byHead sequences).map fun (_, tails) => treeEdges fuel tails + 1).foldl (· + ·) 0

def longestEncoding : Nat := 4

/-- Forward equal states are shared; backward sequences share their beginnings only. -/
def setSize (backward : Bool) (s : CharSet) : Nat :=
  if s.isAscii then stateSize + sparse s.ranges.length
  else
    let sequences := byteRanges s
    if backward then branches sequences.length + stateSize * treeEdges longestEncoding sequences
    else
      let (_, nodes) := nodeOf longestEncoding sequences []
      (nodes.map fun node => sparse node.length).foldl (· + ·) stateSize

def bytesOf (text : List Char) : List UInt8 :=
  text.flatMap String.utf8EncodeChar

/-- The words between the places where a word ends; of empty words at the very start one counts. -/
def chunks : List (List UInt8) → List (List (List UInt8))
  | [] :: [] :: rest => chunks ([] :: rest)
  | words => cut words
where
  cut : List (List UInt8) → List (List (List UInt8))
    | [] => [[]]
    | [] :: rest => [] :: cut rest
    | word :: rest =>
      match cut rest with
      | [] => [[word]]
      | chunk :: more => (word :: chunk) :: more

def tailsByHead (words : List (List UInt8)) : List (List (List UInt8)) :=
  (words.filterMap List.head?).eraseDups.map fun byte =>
    words.filterMap fun word => if word.head? == some byte then some word.tail else none

def wordsSize : Nat → List (List UInt8) → Nat
  | 0, _ => 0
  | fuel + 1, words =>
    let all := chunks words
    let full := all.filter (!·.isEmpty)
    let own := full.map fun chunk =>
      let tails := tailsByHead chunk
      let below := tails.map fun words => if words.all List.isEmpty then 0 else wordsSize fuel words
      below.foldl (· + ·) (if tails.length == 1 then stateSize else sparse tails.length)
    own.foldl (· + ·) (stateSize + armSize * (full.length + all.length - 1))

def literals? : List Regex → Option (List (List UInt8))
  | [] => some []
  | .literal text :: rest => (literals? rest).map (bytesOf text :: ·)
  | _ => none

def literalsSize (backward : Bool) (words : List (List UInt8)) : Nat :=
  let words := if backward then words.map List.reverse else words
  stateSize + wordsSize ((words.map List.length).foldl Nat.max 0 + 1) words

def takesText (r : Regex) : Bool :=
  r.minLength.any (0 < ·)

/-- Whether the automaton ends in a branch, to which the way on is added. Backward captures are left
out. -/
def endsInBranch (backward : Bool) : Regex → Bool
  | .capture _ body => backward && endsInBranch backward body
  | .times body 0 none _ => takesText body
  | .times _ _ none _ => true
  | .times body min (some max) _ => min == max && endsInBranch backward body
  | .cat a b => if backward then endsInBranch backward a else endsInBranch backward b
  | _ => false

def wayOn (backward : Bool) (r : Regex) : Nat :=
  if endsInBranch backward r then armSize else 0

def copies (size on n : Nat) : Nat :=
  if n == 0 then stateSize else n * size + (n - 1) * on

def timesSize (size on : Nat) (takes : Bool) : Nat → Option Nat → Nat
  | 0, none =>
    if takes then stateSize + size + armSize + on else 3 * stateSize + size + 4 * armSize + on
  | 1, none => stateSize + size + armSize + on
  | n + 1, none => copies size on n + size + stateSize + armSize + 2 * on
  | 0, some 1 => branches 2 + size + on
  | min, some max =>
    if min == max then copies size on min
    else
      let more := max - min
      copies size on min + stateSize + more * (stateSize + size + 2 * armSize + on) +
        (if min == 0 then 0 else on)

/-- The size of an expression. As one of several options (`option`) it takes an arm of the branch
before it, and a choice among options adds its own options only. -/
def sizeOf (backward option : Bool) : Regex → Nat
  | .capture index body =>
    let own := sizeOf backward false body
    placed (.capture index body)
      (if backward then own else own + 2 * stateSize + wayOn backward body)
  | .times body min max greedy =>
    let own := sizeOf backward false body
    placed (.times body min max greedy)
      (timesSize own (wayOn backward body) (takesText body) min max)
  | .cat a b =>
    let own := sizeOf backward false a + sizeOf backward false b
    placed (.cat a b) (own + wayOn backward (if backward then b else a))
  | .alt a b =>
    match if option then none else literals? (Regex.alt a b).options with
    | some words => literalsSize backward words
    | none => (if option then 0 else branches 0) + sizeOf backward true a + sizeOf backward true b
  | .literal text => placed (.literal text) (stateSize * (bytesOf text).length)
  | .chars set => placed (.chars set) (setSize backward set)
  | .empty => placed .empty stateSize
  | .look condition => placed (.look condition) stateSize
where
  placed (r : Regex) (size : Nat) : Nat :=
    if option then size + armSize + wayOn backward r else size

def beginsWith (condition : Look) : Regex → Bool
  | .look c => c == condition
  | .capture _ body => beginsWith condition body
  | .times body min _ _ => min != 0 && beginsWith condition body
  | .cat a b => beginsWith condition a || (a.maxLength == some 0 && beginsWith condition b)
  | .alt a b => beginsWith condition a && beginsWith condition b
  | _ => false

def endsWith (condition : Look) : Regex → Bool
  | .look c => c == condition
  | .capture _ body => endsWith condition body
  | .times body min _ _ => min != 0 && endsWith condition body
  | .cat a b => endsWith condition b || (b.maxLength == some 0 && endsWith condition a)
  | .alt a b => endsWith condition a && endsWith condition b
  | _ => false

def searchSize (bound : Bool) : Nat :=
  if bound then stateSize else 3 * stateSize + 4 * armSize

def forwardSize (r : Regex) : Nat :=
  searchSize (beginsWith .start r) + 3 * stateSize + sizeOf false false r + wayOn false r

def backwardSize (r : Regex) : Nat :=
  searchSize (endsWith .finish r) + stateSize + sizeOf true false r + wayOn true r

def maxSize : Nat := 10 * Nat.pow 2 20

def fits (r : Regex) : Bool :=
  forwardSize r ≤ maxSize && backwardSize r ≤ maxSize

end Automaton

end IfaceMonitor.Pattern
