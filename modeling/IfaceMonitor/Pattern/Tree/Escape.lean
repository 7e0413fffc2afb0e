import IfaceMonitor.Pattern.CharClass
import IfaceMonitor.Pattern.Tree.Basic
import IfaceMonitor.Text.Blank
import IfaceMonitor.Text.Numeral

namespace IfaceMonitor.Pattern

inductive Fault
  | unclosedGroup
  | unopenedGroup
  | missingOperand
  | badRepetition
  | badGroupName
  | badFlags
  | lookAround
  | backReference
  | badEscape
  | badHexCode
  | unknownClass
  | unclosedClass
  | badClassRange
  | badClassItem
  | badWordBoundary
  | nestedTooDeeply
  | notText
  | tooLarge
  deriving DecidableEq

def Fault.message : Fault → String
  | unclosedGroup => "unclosed group"
  | unopenedGroup => "unopened group"
  | missingOperand => "repetition operator missing expression"
  | badRepetition => "invalid repetition count"
  | badGroupName => "invalid capture group name"
  | badFlags => "invalid flags"
  | lookAround => "look-around is not supported"
  | backReference => "backreferences are not supported"
  | badEscape => "unrecognized escape sequence"
  | badHexCode => "invalid hexadecimal character code"
  | unknownClass => "unknown character class"
  | unclosedClass => "unclosed character class"
  | badClassRange => "invalid character class range"
  | badClassItem => "invalid escape sequence in character class"
  | badWordBoundary => "invalid word boundary"
  | nestedTooDeeply => "parts are nested too deeply"
  | notText => "pattern can match invalid text"
  | tooLarge => "pattern is too large"

abbrev Reader (α : Type) := List Char → Except Fault (α × List Char)

def skipComment : List Char → List Char
  | [] => []
  | c :: cs => if c == '\n' then cs else skipComment cs

def skipBlanks : Nat → List Char → List Char
  | 0, cs => cs
  | _, [] => []
  | fuel + 1, c :: cs =>
    if Text.isBlank c then skipBlanks fuel cs
    else if c == '#' then skipBlanks fuel (skipComment cs)
    else c :: cs

def skip (verbose : Bool) (cs : List Char) : List Char :=
  if verbose then skipBlanks cs.length cs else cs

inductive Escape
  | literal (l : Literal)
  | named (name : SetName) (negated : Bool)
  | assertion (a : Assertion)

def isMeta (c : Char) : Bool :=
  "\\.+*?()|[]\x7b\x7d^$#&-~".toList.contains c

def isEscapable (c : Char) : Bool :=
  isMeta c || (c.toNat < 128 && !c.isAlphanum && c != '<' && c != '>')

def charOfCode? (code : Nat) : Option Char :=
  if code < 0xD800 || (0xDFFF < code && code < 0x110000) then some (Char.ofNat code) else none

def charOfHex? (digits : List Char) : Option Char :=
  (Text.readDigits? 16 digits).bind charOfCode?

def takeSkipping (verbose : Bool) : Nat → Reader (List Char)
  | 0, cs => .ok ([], cs)
  | n + 1, cs =>
    match skip verbose cs with
    | [] => .error .badEscape
    | c :: rest => do
      let (taken, rest) ← takeSkipping verbose n rest
      .ok (c :: taken, rest)

def takeBraced (verbose : Bool) : Nat → Reader (List Char)
  | 0, _ => .error .badEscape
  | fuel + 1, cs =>
    match skip verbose cs with
    | [] => .error .badEscape
    | c :: rest =>
      if c == '\x7d' then .ok ([], rest)
      else do
        let (taken, rest) ← takeBraced verbose fuel rest
        .ok (c :: taken, rest)

def readHex (verbose : Bool) (digits : Nat) : Reader Escape := fun cs =>
  match skip verbose cs with
  | '\x7b' :: rest => do
    let (taken, rest) ← takeBraced verbose (rest.length + 1) rest
    match charOfHex? taken with
    | some c => .ok (.literal ⟨c, false⟩, rest)
    | none => .error .badHexCode
  | cs => do
    let (taken, rest) ← takeSkipping verbose digits cs
    match charOfHex? taken with
    | some c => .ok (.literal ⟨c, digits == 2⟩, rest)
    | none => .error .badHexCode

def cutAtPair? (a b : Char) : List Char → Option (List Char × List Char)
  | x :: y :: rest =>
    if x == a && y == b then some ([], rest)
    else (cutAtPair? a b (y :: rest)).map fun (before, behind) => (x :: before, behind)
  | _ => none

def propertyName (name : List Char) (negated : Bool) : Escape :=
  match cutAtPair? '!' '=' name with
  | some (property, value) => .named (.propertyValue property value) (!negated)
  | none =>
    match Text.cutAt? (· == ':') name <|> Text.cutAt? (· == '=') name with
    | some (property, value) => .named (.propertyValue property value) negated
    | none => .named (.property name) negated

def readProperty (verbose negated : Bool) : Reader Escape := fun cs =>
  match skip verbose cs with
  | [] => .error .badEscape
  | '\x7b' :: rest => do
    let (name, rest) ← takeBraced verbose (rest.length + 1) rest
    .ok (propertyName name negated, rest)
  | '\\' :: _ => .error .unknownClass
  | c :: rest => .ok (.named (.property [c]) negated, rest)

def boundaryNames : List (String × Assertion) :=
  [("start", .wordStart), ("end", .wordEnd), ("start-half", .wordStartHalf),
    ("end-half", .wordEndHalf)]

/-- A word boundary, possibly with a kind in braces. Braces that do not begin with a letter or
hyphen are left to be read as a repetition. -/
def readBoundary (verbose : Bool) : Reader Escape := fun cs =>
  match cs with
  | '\x7b' :: rest =>
    match skip verbose rest with
    | [] => .error .badWordBoundary
    | c :: more =>
      if c.isAlpha || c == '-' then do
        let (name, rest) ← takeBraced verbose (more.length + 2) (c :: more)
        match boundaryNames.lookup (String.ofList name) with
        | some a => .ok (.assertion a, rest)
        | none => .error .badWordBoundary
      else .ok (.assertion .boundary, cs)
  | cs => .ok (.assertion .boundary, cs)

def readEscape (verbose : Bool) : Reader Escape := fun cs =>
  match cs with
  | [] => .error .badEscape
  | c :: rest =>
    if '0' ≤ c && c ≤ '9' then .error .backReference
    else
      match c with
      | 'x' => readHex verbose 2 rest
      | 'u' => readHex verbose 4 rest
      | 'U' => readHex verbose 8 rest
      | 'p' => readProperty verbose false rest
      | 'P' => readProperty verbose true rest
      | 'd' => .ok (.named .digit false, rest)
      | 's' => .ok (.named .space false, rest)
      | 'w' => .ok (.named .word false, rest)
      | 'D' => .ok (.named .digit true, rest)
      | 'S' => .ok (.named .space true, rest)
      | 'W' => .ok (.named .word true, rest)
      | 'a' => .ok (.literal ⟨'\x07', false⟩, rest)
      | 'f' => .ok (.literal ⟨'\x0c', false⟩, rest)
      | 't' => .ok (.literal ⟨'\t', false⟩, rest)
      | 'n' => .ok (.literal ⟨'\n', false⟩, rest)
      | 'r' => .ok (.literal ⟨'\r', false⟩, rest)
      | 'v' => .ok (.literal ⟨'\x0b', false⟩, rest)
      | 'A' => .ok (.assertion .textStart, rest)
      | 'z' => .ok (.assertion .textEnd, rest)
      | 'b' => readBoundary verbose rest
      | 'B' => .ok (.assertion .noBoundary, rest)
      | '<' => .ok (.assertion .wordStart, rest)
      | '>' => .ok (.assertion .wordEnd, rest)
      | c => if isEscapable c then .ok (.literal ⟨c, false⟩, rest) else .error .badEscape

end IfaceMonitor.Pattern
