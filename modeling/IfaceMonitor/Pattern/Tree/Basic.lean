import IfaceMonitor.Unicode.CharSet

namespace IfaceMonitor.Pattern

/-- A character that stands for itself; `hex` when it is written `\xNN`, which may also mean a
byte. -/
structure Literal where
  char : Char
  hex : Bool

inductive FlagItem
  | negation
  | flag (name : Char)
  deriving DecidableEq

inductive Assertion
  | lineStart
  | lineEnd
  | textStart
  | textEnd
  | boundary
  | noBoundary
  | wordStart
  | wordEnd
  | wordStartHalf
  | wordEndHalf

inductive SetName
  | digit
  | space
  | word
  | property (name : List Char)
  | propertyValue (name value : List Char)

inductive SetOp
  | inter
  | diff
  | symmDiff

inductive ClassTree
  | literal (l : Literal)
  | range (first last : Literal)
  | named (name : SetName) (negated : Bool)
  | posix (set : Unicode.CharSet) (negated : Bool)
  | bracket (body : ClassTree) (negated : Bool)
  | union (items : List ClassTree)
  | binary (op : SetOp) (left right : ClassTree)

structure Count where
  min : Nat
  max : Option Nat
  greedy : Bool

inductive GroupKind
  | capture (index : Nat)
  | flags (items : List FlagItem)

inductive Tree
  | empty
  | literal (l : Literal)
  | dot
  | assertion (a : Assertion)
  | named (name : SetName) (negated : Bool)
  | bracket (body : ClassTree) (negated : Bool)
  | flags (items : List FlagItem)
  | group (kind : GroupKind) (body : Tree)
  | repetition (body : Tree) (count : Count)
  | sequence (items : List Tree)
  | alternatives (items : List Tree)

def ClassTree.ofItems : List ClassTree → ClassTree
  | [item] => item
  | items => .union items

def Tree.ofItems : List Tree → Tree
  | [] => .empty
  | [item] => item
  | items => .sequence items

def Tree.ofAlternatives : List Tree → Tree
  | [item] => item
  | items => .alternatives items

mutual

def ClassTree.depth : ClassTree → Nat
  | .bracket body _ => body.depth + 1
  | .union [] => 0
  | .union items => ClassTree.depthOf items + 1
  | .binary _ left right => Nat.max left.depth right.depth + 1
  | _ => 0

def ClassTree.depthOf : List ClassTree → Nat
  | [] => 0
  | item :: rest => Nat.max item.depth (ClassTree.depthOf rest)

end

mutual

def Tree.depth : Tree → Nat
  | .bracket body _ => body.depth + 1
  | .group _ body => body.depth + 1
  | .repetition body _ => body.depth + 1
  | .sequence items => Tree.depthOf items + 1
  | .alternatives items => Tree.depthOf items + 1
  | _ => 0

def Tree.depthOf : List Tree → Nat
  | [] => 0
  | item :: rest => Nat.max item.depth (Tree.depthOf rest)

end

end IfaceMonitor.Pattern
