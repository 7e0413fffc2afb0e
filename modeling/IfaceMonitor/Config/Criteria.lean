import IfaceMonitor.Link.Attributes
import IfaceMonitor.Pattern.Anchored

namespace IfaceMonitor

open Pattern

structure Criteria where
  index : Option Patterns
  aliasName : Option Patterns
  descr : Option Patterns
  typeCodes : Option (List String)
  operStates : Option (List LinkStatus)
  adminStates : Option (List LinkStatus)

namespace Criteria

def unrestricted : Criteria where
  index := none
  aliasName := none
  descr := none
  typeCodes := none
  operStates := none
  adminStates := none

def accepts (c : Criteria) (a : Attributes) : Bool :=
  c.index.all (Patterns.matchesStart · a.index)
    && c.aliasName.all (Patterns.matchesStart · a.aliasName)
    && c.descr.all (Patterns.matchesStart · a.descr)
    && c.typeCodes.all (fun types => a.typeCode.isEmpty || types.contains a.typeCode)
    && c.operStates.all (·.contains a.operStatus)
    && c.adminStates.all (fun states => a.adminStatus.all states.contains)

def decode (value : Json) : Decoded Criteria := do
  let fields ← value.record
    ["match_index", "match_alias", "match_desc", "porttypes", "portstates", "admin_states"]
  let patterns := fun name => Json.withDefault fields name none (Json.optional Patterns.decode)
  let states := fun name =>
    Json.withDefault fields name none (Json.optional (Json.list LinkStatus.decode))
  return {
    index := ← patterns "match_index"
    aliasName := ← patterns "match_alias"
    descr := ← patterns "match_desc"
    typeCodes := ← Json.withDefault fields "porttypes" none (Json.optional (Json.list Json.text))
    operStates := ← states "portstates"
    adminStates := ← states "admin_states" }

def encode (c : Criteria) : Json :=
  .objOf [
    ("match_index", c.index.map Patterns.encode),
    ("match_alias", c.aliasName.map Patterns.encode),
    ("match_desc", c.descr.map Patterns.encode),
    ("porttypes", c.typeCodes.map (Json.ofList .str)),
    ("portstates", c.operStates.map (Json.ofList LinkStatus.encode)),
    ("admin_states", c.adminStates.map (Json.ofList LinkStatus.encode))]

end Criteria

end IfaceMonitor
