import IfaceMonitor.Unicode.CharSet

/-!
Regular expressions. The functions `ofSet`, `sequence`, `choice` and `repeated` bring expressions
into a normal form: sequences and choices lean to the right, neighbouring literals are joined,
choices between characters are sets, and what all options of a choice begin with stands before the
choice.
-/

namespace IfaceMonitor.Pattern

open Unicode (CharSet)

inductive Look
  | start
  | finish
  | lineStart (crlf : Bool)
  | lineEnd (crlf : Bool)
  | boundary (unicode : Bool)
  | noBoundary (unicode : Bool)
  | wordStart (unicode : Bool)
  | wordEnd (unicode : Bool)
  | notAfterWord (unicode : Bool)
  | notBeforeWord (unicode : Bool)
  deriving DecidableEq

inductive Regex
  | empty
  | literal (text : List Char)
  | chars (set : CharSet)
  | look (condition : Look)
  | capture (index : Nat) (body : Regex)
  | times (body : Regex) (min : Nat) (max : Option Nat) (greedy : Bool)
  | cat (first second : Regex)
  | alt (first second : Regex)
  deriving DecidableEq

namespace Regex

def minLength : Regex → Option Nat
  | empty => some 0
  | literal text => some text.length
  | chars set => if set.isEmpty then none else some 1
  | look _ => some 0
  | capture _ body => body.minLength
  | times body min _ _ => body.minLength.map (· * min)
  | cat a b => do return (← a.minLength) + (← b.minLength)
  | alt a b => do return Nat.min (← a.minLength) (← b.minLength)

def maxLength : Regex → Option Nat
  | empty => some 0
  | literal text => some text.length
  | chars set => if set.isEmpty then none else some 1
  | look _ => some 0
  | capture _ body => body.maxLength
  | times body _ max _ => do return (← body.maxLength) * (← max)
  | cat a b => do return (← a.maxLength) + (← b.maxLength)
  | alt a b => do return Nat.max (← a.maxLength) (← b.maxLength)

def weight : Regex → Nat
  | capture _ body => body.weight + 1
  | times body _ _ _ => body.weight + 1
  | cat a b => a.weight + b.weight + 1
  | alt a b => a.weight + b.weight + 1
  | _ => 1

def never : Regex :=
  chars .empty

def ofSet (s : CharSet) : Regex :=
  match s.single? with
  | some c => literal [c]
  | none => chars s

def factors : Regex → List Regex
  | empty => []
  | cat a b => a :: b.factors
  | r => [r]

def ofFactors : List Regex → Regex
  | [] => empty
  | [r] => r
  | r :: rest => cat r (ofFactors rest)

def joinLiterals : List Regex → List Regex
  | [] => []
  | literal text :: rest =>
    match joinLiterals rest with
    | literal more :: rest => literal (text ++ more) :: rest
    | rest => literal text :: rest
  | r :: rest => r :: joinLiterals rest

def sequence (parts : List Regex) : Regex :=
  ofFactors (joinLiterals (parts.flatMap factors))

/-- What can match the empty text only is matched at most once. -/
def repeated (body : Regex) (min : Nat) (max : Option Nat) (greedy : Bool) : Regex :=
  let emptyOnly := body.maxLength == some 0
  let min := if emptyOnly then Nat.min min 1 else min
  let max := if emptyOnly then some (Nat.min (max.getD 1) 1) else max
  if min == 0 && max == some 0 then empty
  else if min == 1 && max == some 1 then body
  else times body min max greedy

def options : Regex → List Regex
  | alt a b => a :: b.options
  | r => [r]

def ofOptions : List Regex → Regex
  | [] => never
  | [r] => r
  | r :: rest => alt r (ofOptions rest)

def singleChars? : List Regex → Option (List Char)
  | [] => some []
  | literal [c] :: rest => (singleChars? rest).map (c :: ·)
  | _ => none

def sets? : List Regex → Option (List CharSet)
  | [] => some []
  | chars s :: rest => (sets? rest).map (s :: ·)
  | _ => none

def sharedFront : List Regex → List Regex → List Regex
  | a :: as, b :: bs => if a = b then a :: sharedFront as bs else []
  | _, _ => []

def sharedFactors : List Regex → List Regex
  | [] => []
  | [cat a b] => (cat a b).factors
  | cat a b :: rest => sharedFront (cat a b).factors (sharedFactors rest)
  | _ => []

/-- A choice in normal form; `fuel` is at least the weight of all options. -/
def choiceWithin : Nat → List Regex → Regex
  | 0, parts => ofOptions (parts.flatMap options)
  | fuel + 1, parts =>
    match parts.flatMap options with
    | [] => never
    | [r] => r
    | all =>
      match singleChars? all, sets? all with
      | some cs, _ => ofSet (.ofCodes (cs.map Char.toNat))
      | none, some sets => ofSet (.unionOf sets)
      | none, none =>
        match sharedFactors all with
        | [] => ofOptions all
        | shared =>
          let tails := all.map fun r => sequence (r.factors.drop shared.length)
          sequence (shared ++ [choiceWithin fuel tails])

def choice (parts : List Regex) : Regex :=
  choiceWithin ((parts.map weight).foldl (· + ·) 0) parts

end Regex

end IfaceMonitor.Pattern
