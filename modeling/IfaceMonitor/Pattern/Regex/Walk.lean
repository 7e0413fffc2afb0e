import IfaceMonitor.Pattern.CharClass
import IfaceMonitor.Pattern.Regex.Basic

/-!
Matching. A place in a subject is the number of characters before it, and a set of places is a
number with a bit for each of them. On a given subject an expression becomes a walk, which takes a
set of places to the places where matches from there can end. The loops of a walk remember the
places where they were entered; the walk is repeated until no loop learns of a new place. This takes
at most one round for every place of every loop, however loops are nested.
-/

namespace IfaceMonitor.Pattern

/-- A place in a subject: the character before it and the characters after it. -/
structure Cursor where
  before : Option Char
  after : List Char

namespace Cursor

def steps (before : Option Char) : List Char → List Cursor
  | [] => [⟨before, []⟩]
  | c :: cs => ⟨before, c :: cs⟩ :: steps (some c) cs

def all (subject : List Char) : List Cursor :=
  steps none subject

end Cursor

def Look.holds (condition : Look) (c : Cursor) : Bool :=
  let wordBefore := fun unicode => c.before.any fun x => (CharClass.word unicode).contains x.toNat
  let wordAfter := fun unicode => c.after.head?.any fun x =>
    (CharClass.word unicode).contains x.toNat
  match condition with
  | start => c.before.isNone
  | finish => c.after.isEmpty
  | lineStart false => c.before.all (· == '\n')
  | lineEnd false => c.after.head?.all (· == '\n')
  | lineStart true => c.before.all fun b => b == '\n' || (b == '\r' && c.after.head? != some '\n')
  | lineEnd true => c.after.head?.all fun a => a == '\r' || (a == '\n' && c.before != some '\r')
  | boundary unicode => wordBefore unicode != wordAfter unicode
  | noBoundary unicode => wordBefore unicode == wordAfter unicode
  | wordStart unicode => !wordBefore unicode && wordAfter unicode
  | wordEnd unicode => wordBefore unicode && !wordAfter unicode
  | notAfterWord unicode => !wordBefore unicode
  | notBeforeWord unicode => !wordAfter unicode

abbrev Places := Nat

def Places.filter (p : Cursor → Bool) (cursors : List Cursor) : Places :=
  cursors.foldr (fun c places => 2 * places + (p c).toNat) 0

theorem half_add_bit (n : Nat) (b : Bool) : (2 * n + b.toNat) / 2 = n := by
  cases b <;> simp only [Bool.toNat_false, Bool.toNat_true] <;> omega

theorem Places.testBit_filter (p : Cursor → Bool) (cursors : List Cursor) (i : Nat) :
    (Places.filter p cursors).testBit i = (cursors[i]?).any p := by
  induction cursors generalizing i with
  | nil => simp [Places.filter]
  | cons c rest ih =>
    have step : Places.filter p (c :: rest) = 2 * Places.filter p rest + (p c).toNat := rfl
    rw [step]
    cases i with
    | zero => cases h : p c <;> simp [Nat.testBit_zero, Nat.add_mod, h]
    | succ i => simp [Nat.testBit_succ, half_add_bit, ih]

inductive Walk
  | stay (places : Places)
  | go (places : Places) (length : Nat)
  | both (first second : Walk)
  | either (first second : Walk)
  /-- One round or more; `entered` are the places where a round is known to begin. -/
  | loop (body : Walk) (entered : Places)
  deriving DecidableEq

namespace Walk

/-- Where the walk leads, as far as its loops know, and the walk with what its loops have
learned. -/
def follow : Walk → Places → Places × Walk
  | stay places, s => (s &&& places, stay places)
  | go places length, s => ((s &&& places) <<< length, go places length)
  | both a b, s =>
    if s = 0 then (0, both a b)
    else
      let (t, a) := a.follow s
      let (t, b) := b.follow t
      (t, both a b)
  | either a b, s =>
    if s = 0 then (0, either a b)
    else
      let (t, a) := a.follow s
      let (u, b) := b.follow s
      (t ||| u, either a b)
  | loop body entered, s =>
    let entered := entered ||| s
    if entered = 0 then (0, loop body entered)
    else
      let (t, body) := body.follow entered
      (t, loop body (entered ||| t))

def settle : Nat → Walk → Places → Places
  | 0, w, s => (w.follow s).1
  | rounds + 1, w, s =>
    let (t, next) := w.follow s
    if next = w then t else settle rounds next s

def loops : Walk → Nat
  | stay _ => 0
  | go _ _ => 0
  | both a b => a.loops + b.loops
  | either a b => a.loops + b.loops
  | loop body _ => body.loops + 1

def reach (w : Walk) (places : Nat) (s : Places) : Places :=
  settle (places * w.loops + 1) w s

def times (here : Places) (w : Walk) : Nat → Walk
  | 0 => stay here
  | 1 => w
  | n + 1 => both w (times here w n)

end Walk

/-- The walk of an expression. Of a counted repetition no more rounds are kept than there are
places: rounds that take nothing need not be repeated. -/
def Regex.walk (cursors : List Cursor) : Regex → Walk
  | empty => .stay here
  | literal text => .go (Places.filter (fun c => text.isPrefixOf c.after) cursors) text.length
  | chars set =>
    .go (Places.filter (fun c => c.after.head?.any fun x => set.contains x.toNat) cursors) 1
  | look condition => .stay (Places.filter condition.holds cursors)
  | capture _ body => body.walk cursors
  | cat a b => .both (a.walk cursors) (b.walk cursors)
  | alt a b => .either (a.walk cursors) (b.walk cursors)
  | times body min max _ =>
    let round := body.walk cursors
    let least := Nat.min min cursors.length
    match max with
    | none =>
      if least = 0 then .either (.stay here) (.loop round 0)
      else .both (round.times here (least - 1)) (.loop round 0)
    | some max =>
      let more := Nat.min (max - min) cursors.length
      .both (round.times here least) ((Walk.either (.stay here) round).times here more)
where
  here : Places := Places.filter (fun _ => true) cursors

def Regex.ends (r : Regex) (subject : List Char) (s : Places) : Places :=
  let cursors := Cursor.all subject
  (r.walk cursors).reach cursors.length s

def Regex.matchesIn (r : Regex) (subject : List Char) : Bool :=
  r.ends subject (Places.filter (fun _ => true) (Cursor.all subject)) != 0

end IfaceMonitor.Pattern
