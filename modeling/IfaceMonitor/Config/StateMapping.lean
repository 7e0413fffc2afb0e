import IfaceMonitor.Check.State
import IfaceMonitor.Link.Status

/-!
Tables from interface states to monitoring states, for the two kinds of state on their own or for
pairs of them. A table is a function: the same state may be listed twice only with the same
monitoring state.
-/

namespace IfaceMonitor

abbrev StateTable (κ : Type) := List (κ × State)

namespace StateTable

variable {κ : Type} [DecidableEq κ]

def lookup (t : StateTable κ) (key : κ) : Option State :=
  (t.find? fun e => e.1 = key).map (·.2)

def add (conflict : κ → State → State → ConfigError) (t : StateTable κ) (key : κ)
    (state : State) : Except ConfigError (StateTable κ) :=
  match t.lookup key with
  | none => .ok (t ++ [(key, state)])
  | some previous => if previous = state then .ok t else .error (conflict key previous state)

def build (conflict : κ → State → State → ConfigError) (entries : List (List κ × Nat)) :
    Except ConfigError (StateTable κ) :=
  entries.foldlM (fun t e => do
    let state ← State.ofCode e.2
    e.1.foldlM (fun t key => t.add conflict key state) t) []

end StateTable

inductive StateMapping
  | independent (oper admin : StateTable LinkStatus)
  | combined (pairs : StateTable (LinkStatus × LinkStatus))

namespace StateMapping

def statusConflict (status : LinkStatus) (first second : State) : ConfigError :=
  .ambiguousStatus status.code first.code second.code

def pairConflict (pair : LinkStatus × LinkStatus) (first second : State) : ConfigError :=
  .ambiguousStatusPair pair.1.code pair.2.code first.code second.code

def decodeCode : Json → Decoded Nat :=
  Json.natural 256

def decodeTable : Json → Decoded (List (List LinkStatus × Nat)) :=
  Json.list (Json.pair (Json.list LinkStatus.decode) decodeCode)

def decodePairs (value : Json) : Decoded (List (List (LinkStatus × LinkStatus) × Nat)) := do
  let entries ← value.list (Json.triple LinkStatus.decode LinkStatus.decode decodeCode)
  return entries.map fun (oper, admin, code) => ([(oper, admin)], code)

def decode : Json → Decoded StateMapping
  | .obj [("independent_mappings", value)] => do
    let fields ← value.record ["map_operstates", "map_admin_states"]
    let oper ← Json.withDefault fields "map_operstates" [] decodeTable
    let admin ← Json.withDefault fields "map_admin_states" [] decodeTable
    return .independent (← Decoded.ofConfig (StateTable.build statusConflict oper))
      (← Decoded.ofConfig (StateTable.build statusConflict admin))
  | .obj [("combined_mappings", value)] => do
    return .combined (← Decoded.ofConfig (StateTable.build pairConflict (← decodePairs value)))
  | _ => .error .shape

end StateMapping

end IfaceMonitor
