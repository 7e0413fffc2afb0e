/-!
JSON values. Whole numbers and doubles are kept apart, because `1` and `1.0` are different records
here. An object keeps its members in the order of the text, repeated names included; `canonical`
sorts them by name and lets the last of several members of one name stand. Some JSON text stands for
no value; where nothing asks for the value, it may stand all the same.
-/

namespace IfaceMonitor

inductive Json
  | null
  | bool (value : Bool)
  | int (value : Int)
  | float (value : Float)
  | str (value : String)
  | arr (items : List Json)
  | obj (members : List (String × Json))
  /-- A number that is too large, half of a surrogate pair, or an array or object that is nested too
  deeply. -/
  | unreadable
  deriving Inhabited

namespace Json

def insertMember (name : String) (value : Json) : List (String × Json) → List (String × Json)
  | [] => [(name, value)]
  | (other, old) :: rest =>
    if name < other then (name, value) :: (other, old) :: rest
    else if name = other then (name, value) :: rest
    else (other, old) :: insertMember name value rest

mutual

def canonical : Json → Json
  | .arr items => .arr (canonicalItems items)
  | .obj members => .obj (canonicalMembers members [])
  | value => value

def canonicalItems : List Json → List Json
  | [] => []
  | value :: rest => canonical value :: canonicalItems rest

def canonicalMembers : List (String × Json) → List (String × Json) → List (String × Json)
  | [], sorted => sorted
  | (name, value) :: rest, sorted =>
    canonicalMembers rest (insertMember name (canonical value) sorted)

end

mutual

def isReadable : Json → Bool
  | .arr items => areReadable items
  | .obj members => haveReadable members
  | .unreadable => false
  | _ => true

def areReadable : List Json → Bool
  | [] => true
  | value :: rest => isReadable value && areReadable rest

def haveReadable : List (String × Json) → Bool
  | [] => true
  | (_, value) :: rest => isReadable value && haveReadable rest

end

def member? (name : String) : Json → Option Json
  | .obj members => (members.reverse.find? (·.1 == name)).map (·.2)
  | _ => none

/-- A double as it can be written: JSON has no infinities and no NaN. -/
def ofFloat (x : Float) : Json :=
  if x.isFinite then .float x else .null

def objOf (members : List (String × Option Json)) : Json :=
  .obj (members.filterMap fun (name, value) => value.map (name, ·))

def ofOption (encode : α → Json) : Option α → Json
  | none => .null
  | some x => encode x

def ofList (encode : α → Json) (xs : List α) : Json :=
  .arr (xs.map encode)

end Json

end IfaceMonitor
