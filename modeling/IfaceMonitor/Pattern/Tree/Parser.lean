import IfaceMonitor.Pattern.Tree.Bracket

namespace IfaceMonitor.Pattern

def readGreed : List Char → Bool × List Char
  | '?' :: cs => (false, cs)
  | cs => (true, cs)

def takeDigits (verbose : Bool) : Nat → List Char → List Char × List Char
  | fuel + 1, c :: cs =>
    if c.isDigit then
      let (digits, rest) := takeDigits verbose fuel (skip verbose cs)
      (c :: digits, rest)
    else ([], c :: cs)
  | _, cs => ([], cs)

def readNumber (verbose : Bool) (cs : List Char) : Except Fault (Option Nat × List Char) :=
  let (digits, rest) := takeDigits verbose cs.length (cs.dropWhile Text.isBlank)
  let rest := (skip verbose rest).dropWhile Text.isBlank
  if digits.isEmpty then .ok (none, rest)
  else
    match (Text.readDigits? 10 digits).filter (· < Nat.pow 2 32) with
    | some n => .ok (some n, rest)
    | none => .error .badRepetition

def readCounts (verbose : Bool) : Reader (Nat × Option Nat) := fun cs => do
  let (min, rest) ← readNumber verbose (skip verbose cs)
  match min, rest with
  | some min, ',' :: rest =>
    match skip verbose rest with
    | '\x7d' :: rest => .ok ((min, none), rest)
    | rest => do
      let (max, rest) ← readNumber verbose rest
      match max, rest with
      | some max, '\x7d' :: rest =>
        if min ≤ max then .ok ((min, some max), rest) else .error .badRepetition
      | _, _ => .error .badRepetition
  | some n, '\x7d' :: rest => .ok ((n, some n), rest)
  | _, _ => .error .badRepetition

def isFlagName (c : Char) : Bool :=
  "imsUuRx".toList.contains c

def readFlagItems (items : List FlagItem) : Reader (List FlagItem)
  | [] => .error .badFlags
  | c :: cs =>
    if c == ':' || c == ')' then
      if items.getLast? == some .negation then .error .badFlags else .ok (items, c :: cs)
    else
      let item := if c == '-' then FlagItem.negation else .flag c
      if (c != '-' && !isFlagName c) || items.contains item then .error .badFlags
      else readFlagItems (items ++ [item]) cs

/-- What flags make of a setting that the flag `name` stands for: those behind a hyphen clear it. -/
def flagState (name : Char) (value : Bool) : List FlagItem → Bool → Bool
  | [], old => old
  | .negation :: rest, old => flagState name false rest old
  | .flag c :: rest, old => flagState name value rest (if c == name then value else old)

def isNameStart (c : Char) : Bool :=
  c == '_' || Unicode.Property.alphabetic.contains c.toNat

def isNameChar (c : Char) : Bool :=
  c == '_' || c == '.' || c == '[' || c == ']' || Unicode.Property.alphanumeric.contains c.toNat

def readGroupName : Reader (List Char) := fun cs =>
  match Text.cutAt? (· == '>') cs with
  | some (c :: name, rest) =>
    if isNameStart c && name.all isNameChar then .ok (c :: name, rest) else .error .badGroupName
  | _ => .error .badGroupName

inductive GroupHead
  | setFlags (items : List FlagItem)
  | plain (items : List FlagItem)
  | capture (name : Option (List Char))

def readGroupHead (verbose : Bool) : Reader GroupHead := fun cs =>
  match skip verbose cs with
  | '?' :: '=' :: _ => .error .lookAround
  | '?' :: '!' :: _ => .error .lookAround
  | '?' :: '<' :: '=' :: _ => .error .lookAround
  | '?' :: '<' :: '!' :: _ => .error .lookAround
  | '?' :: 'P' :: '<' :: rest => do
    let (name, rest) ← readGroupName rest
    .ok (.capture (some name), rest)
  | '?' :: '<' :: rest => do
    let (name, rest) ← readGroupName rest
    .ok (.capture (some name), rest)
  | '?' :: rest => do
    let (items, rest) ← readFlagItems [] rest
    match rest with
    | ')' :: rest => if items.isEmpty then .error .missingOperand else .ok (.setFlags items, rest)
    | ':' :: rest => .ok (.plain items, rest)
    | _ => .error .badFlags
  | rest => .ok (.capture none, rest)

abbrev Captures := List (Option (List Char))

def Captures.add (captures : Captures) (name : Option (List Char)) : Except Fault Captures :=
  if name.isSome && captures.contains name then .error .badGroupName else .ok (name :: captures)

/-- What has been read of a group: the finished alternatives and the items of the last one, both in
reverse, and the capturing groups of the whole pattern. -/
structure Progress where
  finished : List Tree
  items : List Tree
  captures : Captures

namespace Progress

def start (captures : Captures) : Progress :=
  { finished := [], items := [], captures }

def push (p : Progress) (item : Tree) : Progress :=
  { p with items := item :: p.items }

def nextAlternative (p : Progress) : Progress :=
  { p with finished := Tree.ofItems p.items.reverse :: p.finished, items := [] }

def whole (p : Progress) : Tree :=
  Tree.ofAlternatives p.nextAlternative.finished.reverse

def repeatLast (p : Progress) (count : Count) : Except Fault Progress :=
  match p.items with
  | [] => .error .missingOperand
  | .flags _ :: _ => .error .missingOperand
  | item :: rest => .ok { p with items := .repetition item count :: rest }

end Progress

def readAtom (verbose : Bool) : Reader Tree := fun cs =>
  match cs with
  | [] => .ok (.empty, [])
  | '\\' :: rest => do
    let (escape, rest) ← readEscape verbose rest
    match escape with
    | .literal l => .ok (.literal l, rest)
    | .named name negated => .ok (.named name negated, rest)
    | .assertion a => .ok (.assertion a, rest)
  | '.' :: rest => .ok (.dot, rest)
  | '^' :: rest => .ok (.assertion .lineStart, rest)
  | '$' :: rest => .ok (.assertion .lineEnd, rest)
  | '[' :: rest => readClass verbose rest
  | c :: rest => .ok (.literal ⟨c, false⟩, rest)

def repeatSimply (p : Progress) (min : Nat) (max : Option Nat) : Reader Progress := fun cs => do
  let (greedy, rest) := readGreed cs
  .ok (← p.repeatLast ⟨min, max, greedy⟩, rest)

def closeGroup (p q : Progress) (kind : GroupKind) : Reader Progress
  | ')' :: rest => .ok ({ p with captures := q.captures }.push (.group kind q.whole), rest)
  | _ => .error .unclosedGroup

def readSequence : Nat → Bool → Progress → Reader Progress
  | 0, _, _, _ => .error .tooLarge
  | fuel + 1, verbose, p, cs =>
    match skip verbose cs with
    | [] => .ok (p, [])
    | ')' :: rest => .ok (p, ')' :: rest)
    | '|' :: rest => readSequence fuel verbose p.nextAlternative rest
    | '?' :: rest => do
      let (p, rest) ← repeatSimply p 0 (some 1) rest
      readSequence fuel verbose p rest
    | '*' :: rest => do
      let (p, rest) ← repeatSimply p 0 none rest
      readSequence fuel verbose p rest
    | '+' :: rest => do
      let (p, rest) ← repeatSimply p 1 none rest
      readSequence fuel verbose p rest
    | '\x7b' :: rest => do
      let ((min, max), rest) ← readCounts verbose rest
      let (p, rest) ← repeatSimply p min max (skip verbose rest)
      readSequence fuel verbose p rest
    | '(' :: rest => do
      let (head, rest) ← readGroupHead verbose rest
      match head with
      | .setFlags items =>
        readSequence fuel (flagState 'x' true items verbose) (p.push (.flags items)) rest
      | .plain items =>
        let (q, rest) ← readSequence fuel (flagState 'x' true items verbose)
          (.start p.captures) rest
        let (p, rest) ← closeGroup p q (.flags items) rest
        readSequence fuel verbose p rest
      | .capture name =>
        let captures ← p.captures.add name
        let (q, rest) ← readSequence fuel verbose (.start captures) rest
        let (p, rest) ← closeGroup p q (.capture captures.length) rest
        readSequence fuel verbose p rest
    | cs => do
      let (item, rest) ← readAtom verbose cs
      readSequence fuel verbose (p.push item) rest

def Tree.parse (pattern : List Char) : Except Fault Tree := do
  let (p, rest) ← readSequence (pattern.length + 1) false (.start []) pattern
  if rest.isEmpty then .ok p.whole else .error .unopenedGroup

end IfaceMonitor.Pattern
