import IfaceMonitor.Json.Number

namespace IfaceMonitor.Json

def isSpace (c : Char) : Bool :=
  c == ' ' || c == '\n' || c == '\t' || c == '\r'

def skipSpace (cs : List Char) : List Char :=
  cs.dropWhile isSpace

def readHex? : List Char → Option (Nat × List Char)
  | a :: b :: c :: d :: rest =>
    ([a, b, c, d].foldlM (fun n x => (Text.digitValue? 16 x).map (16 * n + ·)) 0).map fun n =>
      (n, rest)
  | _ => none

/-- A character given by its code; outside the basic plane two codes are needed, and one of them
alone is no character. -/
def readCode? (cs : List Char) : Option (Option Char × List Char) := do
  let (first, cs) ← readHex? cs
  if 0xD800 ≤ first && first < 0xDC00 then
    match cs with
    | '\\' :: 'u' :: more =>
      let (second, more) ← readHex? more
      if 0xDC00 ≤ second && second < 0xE000 then
        some (some (Char.ofNat (0x10000 + (first - 0xD800) * 0x400 + (second - 0xDC00))), more)
      else some (none, cs)
    | _ => some (none, cs)
  else if 0xDC00 ≤ first && first < 0xE000 then some (none, cs)
  else some (some (Char.ofNat first), cs)

def readEscape? : List Char → Option (Option Char × List Char)
  | '"' :: cs => some (some '"', cs)
  | '\\' :: cs => some (some '\\', cs)
  | '/' :: cs => some (some '/', cs)
  | 'b' :: cs => some (some '\x08', cs)
  | 'f' :: cs => some (some '\x0c', cs)
  | 'n' :: cs => some (some '\n', cs)
  | 'r' :: cs => some (some '\r', cs)
  | 't' :: cs => some (some '\t', cs)
  | 'u' :: cs => readCode? cs
  | _ => none

def readString? : Nat → List Char → Option (Option (List Char) × List Char)
  | 0, _ => none
  | _, [] => none
  | fuel + 1, c :: cs =>
    if c == '"' then some (some [], cs)
    else if c == '\\' then do
      let (d, cs) ← readEscape? cs
      let (text, rest) ← readString? fuel cs
      some (do return (← d) :: (← text), rest)
    else if c.toNat < 0x20 then none
    else do
      let (text, rest) ← readString? fuel cs
      some (text.map (c :: ·), rest)

def readScalar? (fuel : Nat) : List Char → Option (Json × List Char)
  | 'n' :: 'u' :: 'l' :: 'l' :: cs => some (.null, cs)
  | 't' :: 'r' :: 'u' :: 'e' :: cs => some (.bool true, cs)
  | 'f' :: 'a' :: 'l' :: 's' :: 'e' :: cs => some (.bool false, cs)
  | '"' :: cs => do
    let (text, rest) ← readString? fuel cs
    some (text.elim .unreadable fun text => .str (String.ofList text), rest)
  | cs => readNumber? cs

def readName? (fuel : Nat) (cs : List Char) : Option (Option String × List Char) :=
  match skipSpace cs with
  | '"' :: cs => do
    let (name, cs) ← readString? fuel cs
    match skipSpace cs with
    | ':' :: rest => some (name.map String.ofList, rest)
    | _ => none
  | _ => none

inductive Bracket
  | array
  | object

inductive Expected
  | value
  | itemOrEnd
  | member
  | memberOrEnd
  | separatorOrEnd

/-- The text behind a value; `around` are the arrays and objects at the current place, the inner one
first. Nothing is kept of the value, so that it may be nested to any depth. -/
def pass? : Nat → Expected → List Bracket → List Char → Option (List Char)
  | 0, _, _, _ => none
  | fuel + 1, expected, around, cs =>
    match expected, around, skipSpace cs with
    | .separatorOrEnd, [], cs => some cs
    | .separatorOrEnd, .array :: _, ',' :: rest => pass? fuel .value around rest
    | .separatorOrEnd, .object :: _, ',' :: rest => pass? fuel .member around rest
    | .separatorOrEnd, .array :: below, ']' :: rest => pass? fuel .separatorOrEnd below rest
    | .separatorOrEnd, .object :: below, '\x7d' :: rest => pass? fuel .separatorOrEnd below rest
    | .separatorOrEnd, _, _ => none
    | .itemOrEnd, _ :: below, ']' :: rest => pass? fuel .separatorOrEnd below rest
    | .memberOrEnd, _ :: below, '\x7d' :: rest => pass? fuel .separatorOrEnd below rest
    | .member, _, cs => (readName? fuel cs).bind fun (_, rest) => pass? fuel .value around rest
    | .memberOrEnd, _, cs => (readName? fuel cs).bind fun (_, rest) => pass? fuel .value around rest
    | _, _, '[' :: rest => pass? fuel .itemOrEnd (.array :: around) rest
    | _, _, '\x7b' :: rest => pass? fuel .memberOrEnd (.object :: around) rest
    | _, _, cs => (readScalar? fuel cs).bind fun (_, rest) => pass? fuel .separatorOrEnd around rest

mutual

def readValue? : Nat → Nat → List Char → Option (Json × List Char)
  | 0, _, _ => none
  | fuel + 1, levels, cs =>
    match skipSpace cs with
    | '[' :: cs =>
      if levels = 0 then (pass? fuel .itemOrEnd [.array] cs).map (.unreadable, ·)
      else
        match skipSpace cs with
        | ']' :: cs => some (.arr [], cs)
        | cs => (readItems? fuel (levels - 1) cs).map fun (items, rest) => (.arr items, rest)
    | '\x7b' :: cs =>
      if levels = 0 then (pass? fuel .memberOrEnd [.object] cs).map (.unreadable, ·)
      else
        match skipSpace cs with
        | '\x7d' :: cs => some (.obj [], cs)
        | cs => (readMembers? fuel (levels - 1) cs).map fun (members, rest) =>
          (members.elim .unreadable .obj, rest)
    | cs => readScalar? (fuel + 1) cs

def readItems? : Nat → Nat → List Char → Option (List Json × List Char)
  | 0, _, _ => none
  | fuel + 1, levels, cs => do
    let (value, cs) ← readValue? fuel levels cs
    match skipSpace cs with
    | ',' :: cs =>
      let (values, rest) ← readItems? fuel levels cs
      some (value :: values, rest)
    | ']' :: rest => some ([value], rest)
    | _ => none

def readMembers? :
    Nat → Nat → List Char → Option (Option (List (String × Json)) × List Char)
  | 0, _, _ => none
  | fuel + 1, levels, cs => do
    let (name, cs) ← readName? (fuel + 1) cs
    let (value, cs) ← readValue? fuel levels cs
    let member := name.map (·, value)
    match skipSpace cs with
    | ',' :: cs =>
      let (members, rest) ← readMembers? fuel levels cs
      some (do return (← member) :: (← members), rest)
    | '\x7d' :: rest => some (member.map ([·]), rest)
    | _ => none

end

def maxLevels : Nat := 127

def parse? (text : String) : Option Json := do
  let cs := text.toList
  let (value, rest) ← readValue? (2 * cs.length + 2) maxLevels cs
  if (skipSpace rest).isEmpty then some value else none

end IfaceMonitor.Json
