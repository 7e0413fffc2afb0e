import IfaceMonitor.Json.Record
import IfaceMonitor.Text.Blank

namespace IfaceMonitor

inductive LinkStatus
  | up
  | down
  | testing
  | unknown
  | dormant
  | notPresent
  | lowerLayerDown
  | degraded
  | adminDown
  | other (code : String)
  deriving DecidableEq

namespace LinkStatus

def code : LinkStatus → String
  | up => "1"
  | down => "2"
  | testing => "3"
  | unknown => "4"
  | dormant => "5"
  | notPresent => "6"
  | lowerLayerDown => "7"
  | degraded => "8"
  | adminDown => "9"
  | other code => code

def name : LinkStatus → String
  | up => "up"
  | down => "down"
  | testing => "testing"
  | unknown => "unknown"
  | dormant => "dormant"
  | notPresent => "not present"
  | lowerLayerDown => "lower layer down"
  | degraded => "degraded"
  | adminDown => "admin down"
  | other code => code

def named : List LinkStatus :=
  [up, down, testing, unknown, dormant, notPresent, lowerLayerDown, degraded, adminDown]

def ofCode (text : String) : LinkStatus :=
  let code := Text.trim text
  (named.find? (·.code == code)).getD (other code)

def isUp (s : LinkStatus) : Bool :=
  s = up

def isDown (s : LinkStatus) : Bool :=
  s = down

def isNamed : LinkStatus → Bool
  | other _ => false
  | _ => true

def decode (value : Json) : Decoded LinkStatus := do
  return ofCode (← value.text)

def encode (s : LinkStatus) : Json :=
  .str s.code

end LinkStatus

end IfaceMonitor
