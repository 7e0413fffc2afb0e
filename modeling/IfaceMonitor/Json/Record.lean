import IfaceMonitor.Cause
import IfaceMonitor.Json.Basic
import IfaceMonitor.Table

/-!
From JSON values to records. A decoder either returns its record, or finds that the value has
another shape, or that the record breaks a rule of the domain. `record` takes the members that a
record knows, from an object by name or from an array by position; members it does not know are
skipped, whatever their values are. Some records are collected as a whole before they are looked at;
then all values must be readable.
-/

namespace IfaceMonitor

inductive DecodeError
  | shape
  | config (cause : ConfigError)
  | interface (cause : InterfaceError)

abbrev Decoded (α : Type) := Except DecodeError α

def Decoded.ofConfig : Except ConfigError α → Decoded α
  | .ok x => .ok x
  | .error cause => .error (.config cause)

def Decoded.ofInterface : Except InterfaceError α → Decoded α
  | .ok x => .ok x
  | .error cause => .error (.interface cause)

namespace Json

def text : Json → Decoded String
  | .str s => .ok s
  | _ => .error .shape

def flag : Json → Decoded Bool
  | .bool b => .ok b
  | _ => .error .shape

def natural (limit : Nat) : Json → Decoded Nat
  | .int n => if 0 ≤ n ∧ n < limit then .ok n.toNat else .error .shape
  | _ => .error .shape

def floatOfInt (n : Int) : Float :=
  let magnitude := n.natAbs.toUInt64.toFloat
  if n < 0 then -magnitude else magnitude

def double : Json → Decoded Float
  | .float x => .ok x
  | .int n => .ok (floatOfInt n)
  | _ => .error .shape

def list (item : Json → Decoded α) : Json → Decoded (List α)
  | .arr items => items.mapM item
  | _ => .error .shape

def optional (decode : Json → Decoded α) : Json → Decoded (Option α)
  | .null => .ok none
  | value => (decode value).map some

def pair (first : Json → Decoded α) (second : Json → Decoded β) : Json → Decoded (α × β)
  | .arr [a, b] => do return (← first a, ← second b)
  | _ => .error .shape

def triple (first : Json → Decoded α) (second : Json → Decoded β)
    (third : Json → Decoded γ) :
    Json → Decoded (α × β × γ)
  | .arr [a, b, c] => do return (← first a, ← second b, ← third c)
  | _ => .error .shape

def named (names : List (String × α)) : Json → Decoded α
  | .str s =>
    match List.lookup s names with
    | some x => .ok x
    | none => .error .shape
  | _ => .error .shape

/-- One of the given names, which may also stand as the only member of an object, with the value
null. -/
def choice (names : List (String × α)) : Json → Decoded α
  | .obj [(s, .null)] => named names (.str s)
  | value => named names value

/-- As `choice`, but in values that were collected before: there an empty object also stands for
null. -/
def collectedChoice (names : List (String × α)) : Json → Decoded α
  | .obj [(s, .obj [])] => named names (.str s)
  | value => choice names value

def readable (value : Json) : Decoded Json :=
  if value.isReadable then .ok value else .error .shape

def collected (direct : List String) (members : List (String × Json)) :
    Decoded (List (String × Json)) := do
  let rest := members.filter fun m => !direct.contains m.1
  rest.forM fun m => discard m.2.readable
  return rest

def members : Json → Decoded (List (String × Json))
  | .obj members => .ok members
  | _ => .error .shape

def table (item : Json → Decoded α) (value : Json) : Decoded (Table α) := do
  let entries ← (← value.members).mapM fun (name, value) => do return (name, ← item value)
  return .ofList entries

def ofTable (encode : α → Json) (t : Table α) : Json :=
  .obj (t.entries.map fun (name, value) => (name, encode value))

/-- The members with a known name, each name at most once. -/
def known (names : List String) (members : List (String × Json)) :
    Decoded (List (String × Json)) :=
  let found := members.filter fun m => names.contains m.1
  if (found.map (·.1)).Nodup then .ok found else .error .shape

def keyedRecord (names : List String) (value : Json) : Decoded (List (String × Json)) := do
  known names (← value.members)

def record (names : List String) : Json → Decoded (List (String × Json))
  | .arr items => if items.length ≤ names.length then .ok (names.zip items) else .error .shape
  | value => value.keyedRecord names

def required (fields : List (String × Json)) (name : String) (decode : Json → Decoded α) :
    Decoded α :=
  match List.lookup name fields with
  | some value => decode value
  | none => .error .shape

def withDefault (fields : List (String × Json)) (name : String) (default : α)
    (decode : Json → Decoded α) : Decoded α :=
  match List.lookup name fields with
  | some value => decode value
  | none => .ok default

end Json

end IfaceMonitor
