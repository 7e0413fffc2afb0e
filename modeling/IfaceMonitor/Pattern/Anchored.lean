import IfaceMonitor.Json.Record
import IfaceMonitor.Pattern.Regex.Automaton
import IfaceMonitor.Pattern.Regex.OfTree
import IfaceMonitor.Pattern.Regex.Walk

namespace IfaceMonitor.Pattern

def maxDepth : Nat := 250

/-- The expression of a text, unless its parts are nested too deeply or its automata would be too
large. -/
def Regex.parse (pattern : List Char) : Except Fault Regex := do
  let tree ← Tree.parse pattern
  if maxDepth < tree.depth then .error .nestedTooDeeply
  else
    let r ← Regex.ofTree tree
    if Automaton.fits r then .ok r else .error .tooLarge

def anchored (pattern : String) : List Char :=
  "^(?:".toList ++ pattern.toList ++ [')']

structure Anchored where
  text : String
  regex : Regex
  parsed : Regex.parse (anchored text) = .ok regex

namespace Anchored

def compile (text : String) : Except ConfigError Anchored :=
  match h : Regex.parse (anchored text) with
  | .ok regex => .ok ⟨text, regex, h⟩
  | .error fault => .error (.invalidPattern text fault.message)

def matchesStart (p : Anchored) (subject : String) : Bool :=
  p.regex.matchesIn subject.toList

theorem ext_text {p q : Anchored} (h : p.text = q.text) : p = q := by
  cases p with | mk text regex hp =>
  cases q with | mk text' regex' hq =>
  cases h
  have : regex = regex' := Except.ok.inj (hp.symm.trans hq)
  subst this
  rfl

instance : DecidableEq Anchored := fun p q =>
  if h : p.text = q.text then isTrue (ext_text h) else isFalse fun e => h (e ▸ rfl)

end Anchored

abbrev Patterns := List Anchored

namespace Patterns

def compile (texts : List String) : Except ConfigError Patterns :=
  texts.mapM Anchored.compile

def texts (l : Patterns) : List String :=
  l.map (·.text)

def matchesStart (l : Patterns) (subject : String) : Bool :=
  l.any (·.matchesStart subject)

def decode (value : Json) : Decoded Patterns := do
  Decoded.ofConfig (compile (← value.list Json.text))

def encode (l : Patterns) : Json :=
  Json.ofList .str (texts l)

end Patterns

end IfaceMonitor.Pattern
