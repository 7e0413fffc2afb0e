import IfaceMonitor.Config.Rule
import IfaceMonitor.Config.Settings

namespace IfaceMonitor

structure Service where
  name : String
  parameters : Discovered
  labels : Labels

namespace Service

def decode (value : Json) : Decoded Service := do
  let fields ← value.record ["item", "parameters", "labels"]
  return {
    name := ← Json.required fields "item" Json.text
    parameters := ← Json.required fields "parameters" Discovered.decode
    labels := ← Json.withDefault fields "labels" .empty Labels.decode }

def encode (s : Service) : Json :=
  .objOf [
    ("item", some (.str s.name)),
    ("parameters", some s.parameters.encode),
    ("labels", if s.labels.isEmpty then none else some s.labels.encode)]

end Service

end IfaceMonitor
