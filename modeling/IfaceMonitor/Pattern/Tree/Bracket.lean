import IfaceMonitor.Pattern.Tree.Escape

namespace IfaceMonitor.Pattern

abbrev Pending := Option (SetOp × ClassTree)

def Pending.close (pending : Pending) (items : List ClassTree) : ClassTree :=
  let right := ClassTree.ofItems items.reverse
  match pending with
  | none => right
  | some (op, left) => .binary op left right

/-- A class such as `[:alpha:]` after its opening bracket; without one the bracket opens a nested
class. -/
def posixClass? : List Char → Option (ClassTree × List Char)
  | ':' :: cs =>
    let (negated, cs) :=
      match cs with
      | '^' :: cs => (true, cs)
      | cs => (false, cs)
    match Text.cutAt? (· == ':') cs with
    | some (name, ']' :: rest) =>
      (CharClass.posix.lookup (String.ofList name)).map fun set => (.posix set negated, rest)
    | _ => none
  | _ => none

def readMember (verbose : Bool) : Reader (Literal ⊕ ClassTree) := fun cs =>
  match cs with
  | [] => .error .unclosedClass
  | '\\' :: rest => do
    let (escape, rest) ← readEscape verbose rest
    match escape with
    | .literal l => .ok (.inl l, rest)
    | .named name negated => .ok (.inr (.named name negated), rest)
    | .assertion _ => .error .badClassItem
  | c :: rest => .ok (.inl ⟨c, false⟩, rest)

/-- The character that decides whether a hyphen before `cs` makes a range. In verbose patterns it is
looked for behind white space and one comment sign; the text of a comment is not skipped. -/
def peekBehindHyphen (verbose : Bool) (cs : List Char) : Option Char :=
  if verbose then
    match cs.dropWhile Text.isBlank with
    | '#' :: rest => (rest.dropWhile Text.isBlank).head? <|> cs.head?
    | rest => rest.head? <|> cs.head?
  else cs.head?

def readMemberOrRange (verbose : Bool) : Reader ClassTree := fun cs => do
  let (first, rest) ← readMember verbose cs
  let rest := skip verbose rest
  let alone : Except Fault (ClassTree × List Char) :=
    match first with
    | .inl l => .ok (.literal l, rest)
    | .inr named => .ok (named, rest)
  match rest with
  | [] => .error .unclosedClass
  | '-' :: more =>
    match peekBehindHyphen verbose more with
    | some ']' => alone
    | some '-' => alone
    | _ =>
      let (last, rest) ← readMember verbose (skip verbose more)
      match first, last with
      | .inl a, .inl b =>
        if a.char ≤ b.char then .ok (.range a b, rest) else .error .badClassRange
      | _, _ => .error .badClassRange
  | _ => alone

def leadingHyphens (verbose : Bool) :
    Nat → List ClassTree → List Char → List ClassTree × List Char
  | 0, items, cs => (items, cs)
  | fuel + 1, items, cs =>
    match cs with
    | '-' :: rest =>
      leadingHyphens verbose fuel (.literal ⟨'-', false⟩ :: items) (skip verbose rest)
    | cs => (items, cs)

/-- What an opening bracket begins: a possibly negated class, with its first members. A closing
bracket at the very start is a member. -/
def openClass (verbose : Bool) (cs : List Char) : Bool × List ClassTree × List Char :=
  let cs := skip verbose cs
  let (negated, cs) :=
    match cs with
    | '^' :: rest => (true, skip verbose rest)
    | cs => (false, cs)
  match cs with
  | ']' :: rest => (negated, [.literal ⟨']', false⟩], skip verbose rest)
  | cs =>
    let (items, cs) := leadingHyphens verbose cs.length [] cs
    (negated, items, cs)

def readClassBody (verbose : Bool) : Nat → Pending → List ClassTree → Reader ClassTree
  | 0, _, _, _ => .error .unclosedClass
  | fuel + 1, pending, items, cs =>
    match skip verbose cs with
    | [] => .error .unclosedClass
    | ']' :: rest => .ok (pending.close items, rest)
    | '&' :: '&' :: rest => readClassBody verbose fuel (some (.inter, pending.close items)) [] rest
    | '-' :: '-' :: rest => readClassBody verbose fuel (some (.diff, pending.close items)) [] rest
    | '~' :: '~' :: rest =>
      readClassBody verbose fuel (some (.symmDiff, pending.close items)) [] rest
    | '[' :: rest =>
      match posixClass? rest with
      | some (set, rest) => readClassBody verbose fuel pending (set :: items) rest
      | none => do
        let (negated, nested, rest) := openClass verbose rest
        let (body, rest) ← readClassBody verbose fuel none nested rest
        readClassBody verbose fuel pending (.bracket body negated :: items) rest
    | cs => do
      let (item, rest) ← readMemberOrRange verbose cs
      readClassBody verbose fuel pending (item :: items) rest

def readClass (verbose : Bool) : Reader Tree := fun cs => do
  let (negated, items, rest) := openClass verbose cs
  let (body, rest) ← readClassBody verbose (rest.length + 1) none items rest
  .ok (.bracket body negated, rest)

end IfaceMonitor.Pattern
