import IfaceMonitor.Json.Number
import IfaceMonitor.Text.Numeral

namespace IfaceMonitor.Json

def hexDigit (n : Nat) : Char :=
  if n < 10 then Char.ofNat (48 + n) else Char.ofNat (87 + n)

def codeEscape (n : Nat) : List Char :=
  ['\\', 'u', hexDigit (n / 4096 % 16), hexDigit (n / 256 % 16), hexDigit (n / 16 % 16),
    hexDigit (n % 16)]

def escapeChar (c : Char) : List Char :=
  if c = '"' then ['\\', '"']
  else if c = '\\' then ['\\', '\\']
  else if c = '\x08' then ['\\', 'b']
  else if c = '\x0c' then ['\\', 'f']
  else if c = '\n' then ['\\', 'n']
  else if c = '\r' then ['\\', 'r']
  else if c = '\t' then ['\\', 't']
  else if c.toNat < 0x20 then codeEscape c.toNat
  else [c]

def escapeAscii (c : Char) : List Char :=
  let n := c.toNat
  if n < 0x7F then escapeChar c
  else if n < 0x10000 then codeEscape n
  else codeEscape (0xD800 + (n - 0x10000) / 0x400) ++ codeEscape (0xDC00 + (n - 0x10000) % 0x400)

def quoteWith (escape : Char → List Char) (s : String) : List Char :=
  '"' :: s.toList.flatMap escape ++ ['"']

def scalarText (escape : Char → List Char) : Json → List Char
  | .null => ['n', 'u', 'l', 'l']
  | .unreadable => ['n', 'u', 'l', 'l']
  | .bool true => ['t', 'r', 'u', 'e']
  | .bool false => ['f', 'a', 'l', 's', 'e']
  | .int n => (toString n).toList
  | .float x => if x.isFinite then floatText x else ['n', 'u', 'l', 'l']
  | .str s => quoteWith escape s
  | .arr _ => ['[', ']']
  | .obj _ => ['\x7b', '\x7d']

mutual

def compactWith (escape : Char → List Char) : Json → List Char
  | .arr [] => ['[', ']']
  | .arr (value :: rest) => '[' :: compactWith escape value ++ compactItems escape rest
  | .obj [] => ['\x7b', '\x7d']
  | .obj ((name, value) :: rest) =>
    '\x7b' :: quoteWith escape name ++ ':' :: compactWith escape value ++ compactMembers escape rest
  | value => scalarText escape value

def compactItems (escape : Char → List Char) : List Json → List Char
  | [] => [']']
  | value :: rest => ',' :: compactWith escape value ++ compactItems escape rest

def compactMembers (escape : Char → List Char) : List (String × Json) → List Char
  | [] => ['\x7d']
  | (name, value) :: rest =>
    ',' :: quoteWith escape name ++ ':' :: compactWith escape value ++ compactMembers escape rest

end

def newLine (level : Nat) : List Char :=
  '\n' :: List.replicate (2 * level) ' '

mutual

def prettyAt (level : Nat) : Json → List Char
  | .arr [] => ['[', ']']
  | .arr (value :: rest) =>
    '[' :: newLine (level + 1) ++ prettyAt (level + 1) value ++ prettyItems level rest
  | .obj [] => ['\x7b', '\x7d']
  | .obj ((name, value) :: rest) =>
    '\x7b' :: newLine (level + 1) ++ quoteWith escapeChar name ++ ':' :: ' ' ::
      prettyAt (level + 1) value ++ prettyMembers level rest
  | value => scalarText escapeChar value

def prettyItems (level : Nat) : List Json → List Char
  | [] => newLine level ++ [']']
  | value :: rest =>
    ',' :: newLine (level + 1) ++ prettyAt (level + 1) value ++ prettyItems level rest

def prettyMembers (level : Nat) : List (String × Json) → List Char
  | [] => newLine level ++ ['\x7d']
  | (name, value) :: rest =>
    ',' :: newLine (level + 1) ++ quoteWith escapeChar name ++ ':' :: ' ' ::
      prettyAt (level + 1) value ++ prettyMembers level rest

end

def compact (value : Json) : String :=
  String.ofList (compactWith escapeChar value)

def ascii (value : Json) : String :=
  String.ofList (compactWith escapeAscii value)

def pretty (value : Json) : String :=
  String.ofList (prettyAt 0 value)

end IfaceMonitor.Json
