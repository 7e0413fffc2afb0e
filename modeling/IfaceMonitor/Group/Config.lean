import IfaceMonitor.Config.Criteria
import IfaceMonitor.ItemName

namespace IfaceMonitor

structure GroupConfig where
  memberNaming : NameSource
  inclusion : Option Criteria
  exclusions : List Criteria

namespace GroupConfig

def ofTag (memberNaming : NameSource) : GroupConfig :=
  { memberNaming, inclusion := none, exclusions := [] }

def includes (c : GroupConfig) (group : String) (a : Attributes) : Bool :=
  match c.inclusion with
  | none => a.group == some group
  | some inclusion => inclusion.accepts a && !c.exclusions.any (·.accepts a)

def decodeWith (naming : Json → Decoded NameSource) (value : Json) : Decoded GroupConfig := do
  let fields ← value.record ["member_appearance", "inclusion_condition", "exclusion_conditions"]
  return {
    memberNaming := ← Json.withDefault fields "member_appearance" .index naming
    inclusion :=
      ← Json.withDefault fields "inclusion_condition" none (Json.optional Criteria.decode)
    exclusions :=
      ← Json.withDefault fields "exclusion_conditions" [] (Json.list Criteria.decode) }

def decode : Json → Decoded GroupConfig :=
  decodeWith NameSource.decode

def encode (c : GroupConfig) : Json :=
  .objOf [
    ("member_appearance", some c.memberNaming.encode),
    ("inclusion_condition", c.inclusion.map Criteria.encode),
    ("exclusion_conditions",
      if c.exclusions.isEmpty then none else some (Json.ofList Criteria.encode c.exclusions))]

end GroupConfig

end IfaceMonitor
