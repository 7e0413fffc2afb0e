import IfaceMonitor.Pattern.CharClass
import IfaceMonitor.Pattern.Regex.Basic
import IfaceMonitor.Pattern.Tree.Parser
import IfaceMonitor.Unicode.PropertyName

/-!
The expression that a tree stands for. Flags hold from where they are set to the end of the group,
so the meaning of a tree is read from left to right and hands on the flags. Without the flag `u`
patterns are about bytes: then no part may match anything but characters, which leaves sets inside
ASCII and no complements.
-/

namespace IfaceMonitor.Pattern

open Unicode

structure Flags where
  ignoreCase : Bool
  multiLine : Bool
  dotAll : Bool
  swapGreed : Bool
  unicode : Bool
  crlf : Bool

namespace Flags

def standard : Flags :=
  { ignoreCase := false, multiLine := false, dotAll := false, swapGreed := false,
    unicode := true, crlf := false }

def apply (f : Flags) (items : List FlagItem) : Flags :=
  { ignoreCase := flagState 'i' true items f.ignoreCase
    multiLine := flagState 'm' true items f.multiLine
    dotAll := flagState 's' true items f.dotAll
    swapGreed := flagState 'U' true items f.swapGreed
    unicode := flagState 'u' true items f.unicode
    crlf := flagState 'R' true items f.crlf }

def fold (f : Flags) (s : CharSet) : CharSet :=
  if f.ignoreCase then (if f.unicode then CaseFold.close s else CaseFold.closeAscii s) else s

/-- The complement of a set, which contains what is no character where patterns are about bytes. -/
def complement (f : Flags) (s : CharSet) : Except Fault CharSet :=
  if f.unicode then .ok s.compl else .error .notText

def foldAndNegate (f : Flags) (negated : Bool) (s : CharSet) : Except Fault CharSet :=
  if negated then f.complement (f.fold s) else .ok (f.fold s)

/-- Where patterns are about bytes, a code above ASCII is no character. -/
def literal (f : Flags) (l : Literal) : Except Fault Regex :=
  if !f.unicode && l.hex && 128 ≤ l.char.toNat then .error .notText
  else .ok (Regex.ofSet (f.fold (.ofChar l.char)))

def member (f : Flags) (l : Literal) : Except Fault Nat :=
  if f.unicode || l.char.toNat < 128 then .ok l.char.toNat else .error .notText

def named (f : Flags) (name : SetName) (negated : Bool) : Except Fault CharSet :=
  match name with
  | .digit => signed (CharClass.digit f.unicode)
  | .space => signed (CharClass.space f.unicode)
  | .word => signed (CharClass.word f.unicode)
  | .property name => property (PropertyName.set? name)
  | .propertyValue name value => property (PropertyName.setOfValue? name value)
where
  signed (s : CharSet) : Except Fault CharSet :=
    if negated then f.complement s else .ok s
  property (s? : Option CharSet) : Except Fault CharSet :=
    match s? with
    | none => .error .unknownClass
    | some s => if f.unicode then f.foldAndNegate negated s else .error .notText

def dot (f : Flags) : Except Fault CharSet :=
  if !f.unicode then .error .notText
  else if f.dotAll then .ok .any
  else if f.crlf then .ok (CharSet.ofCodes [10, 13]).compl
  else .ok (CharSet.ofCodes [10]).compl

def assertion (f : Flags) : Assertion → Look
  | .lineStart => if f.multiLine then .lineStart f.crlf else .start
  | .lineEnd => if f.multiLine then .lineEnd f.crlf else .finish
  | .textStart => .start
  | .textEnd => .finish
  | .boundary => .boundary f.unicode
  | .noBoundary => .noBoundary f.unicode
  | .wordStart => .wordStart f.unicode
  | .wordEnd => .wordEnd f.unicode
  | .wordStartHalf => .notAfterWord f.unicode
  | .wordEndHalf => .notBeforeWord f.unicode

end Flags

def SetOp.apply : SetOp → CharSet → CharSet → CharSet
  | inter, a, b => a ∩ b
  | diff, a, b => a \ b
  | symmDiff, a, b => a.symmDiff b

mutual

/-- The operands of an operator are closed under case before it is applied. -/
def ClassTree.set (f : Flags) : ClassTree → Except Fault CharSet
  | .literal l => do
    let code ← f.member l
    .ok (.ofCodes [code])
  | .range first last => do
    .ok (.ofRanges [(← f.member first, ← f.member last)])
  | .named name negated => f.named name negated
  | .posix set negated => f.foldAndNegate negated set
  | .bracket body negated => do f.foldAndNegate negated (← body.set f)
  | .union items => ClassTree.setOf f items
  | .binary op left right => do
    .ok (op.apply (f.fold (← left.set f)) (f.fold (← right.set f)))

def ClassTree.setOf (f : Flags) : List ClassTree → Except Fault CharSet
  | [] => .ok .empty
  | item :: rest => do .ok ((← item.set f) ∪ (← ClassTree.setOf f rest))

end

mutual

def Tree.meaning (f : Flags) : Tree → Except Fault (Regex × Flags)
  | .empty => .ok (.empty, f)
  | .literal l => do .ok (← f.literal l, f)
  | .dot => do .ok (.ofSet (← f.dot), f)
  | .assertion a => .ok (.look (f.assertion a), f)
  | .named name negated => do .ok (.ofSet (← f.named name negated), f)
  | .bracket body negated => do .ok (.ofSet (← f.foldAndNegate negated (← body.set f)), f)
  | .flags items => .ok (.empty, f.apply items)
  | .group (.capture index) body => do
    let (r, _) ← body.meaning f
    .ok (.capture index r, f)
  | .group (.flags items) body => do
    let (r, _) ← body.meaning (f.apply items)
    .ok (r, f)
  | .repetition body count => do
    let (r, f) ← body.meaning f
    .ok (r.repeated count.min count.max (count.greedy != f.swapGreed), f)
  | .sequence items => do
    let (rs, f) ← Tree.meanings f items
    .ok (.sequence rs, f)
  | .alternatives items => do
    let (rs, f) ← Tree.meanings f items
    .ok (.choice rs, f)

def Tree.meanings (f : Flags) : List Tree → Except Fault (List Regex × Flags)
  | [] => .ok ([], f)
  | item :: rest => do
    let (r, f) ← item.meaning f
    let (rs, f) ← Tree.meanings f rest
    .ok (r :: rs, f)

end

def Regex.ofTree (t : Tree) : Except Fault Regex := do
  let (r, _) ← t.meaning .standard
  .ok r

end IfaceMonitor.Pattern
