import IfaceMonitor.Link.HardwareAddress
import IfaceMonitor.Link.Status

/-!
Identity and static properties of an interface. `Attributes.create` and `decode` are the only ways
to attributes, both through `normalized`: description and alias lose NUL characters and the white
space around them and have no line feeds, and a speed that some firmware reports in units of 10
kbit/s is put right.
-/

namespace IfaceMonitor

structure Attributes where
  index : String
  descr : String
  aliasName : String
  /-- The code of the interface type, `6` for ethernet; may be empty. -/
  typeCode : String
  /-- Bits per second, zero if unknown. -/
  speed : Float
  operStatus : LinkStatus
  adminStatus : Option LinkStatus
  address : HardwareAddress
  outQueue : Option Float
  speedText : String
  group : Option String
  node : Option String
  extraInfo : Option String

namespace Attributes

def normalizedName (name : String) : String :=
  let kept := Text.trimChars (name.toList.filter (· != '\x00'))
  String.ofList (kept.map fun c => if c == '\n' then ' ' else c)

/-- Speeds above this are ten thousand times too large. -/
def largestSpeed : Float := 9000000000000.0

def correctedSpeed (speed : Float) : Float :=
  if speed > largestSpeed then speed / 10000.0 else speed

def normalized (a : Attributes) : Attributes :=
  { a with
    speed := correctedSpeed a.speed
    descr := normalizedName a.descr
    aliasName := normalizedName a.aliasName }

def create (index descr aliasName : String) (operStatus : LinkStatus) :
    Except InterfaceError Attributes :=
  if (Text.trim index).isEmpty then .error (.blankIndex descr)
  else
    .ok <| normalized
      { index, descr, aliasName, operStatus
        typeCode := ""
        speed := 0.0
        adminStatus := none
        address := .empty
        outQueue := none
        speedText := ""
        group := none
        node := none
        extraInfo := none }

def setTypeCode (a : Attributes) (typeCode : String) : Attributes :=
  { a with typeCode }

def setSpeed (a : Attributes) (speed : Float) : Attributes :=
  { a with speed }.normalized

def setAdminStatus (a : Attributes) (status : LinkStatus) : Attributes :=
  { a with adminStatus := some status }

def setAddress (a : Attributes) (address : HardwareAddress) : Attributes :=
  { a with address }

def setGroup (a : Attributes) (group : String) : Attributes :=
  { a with group := some group }

def setOutQueue (a : Attributes) (length : Float) : Attributes :=
  { a with outQueue := some length }

def isUp (a : Attributes) : Bool :=
  a.operStatus.isUp

def nodeName (a : Attributes) : String :=
  a.node.getD "None"

def identity (a : Attributes) : String :=
  a.index ++ "." ++ a.descr ++ "." ++ a.aliasName ++ "." ++ a.nodeName

def fieldNames : List String :=
  ["index", "descr", "alias", "type", "speed", "oper_status", "admin_status", "phys_address",
    "out_qlen", "speed_as_text", "group", "node", "extra_info"]

def decode (value : Json) : Decoded Attributes := do
  let fields ← value.record fieldNames
  let index ← Json.required fields "index" Json.text
  let descr ← Json.withDefault fields "descr" "" Json.text
  let aliasName ← Json.withDefault fields "alias" "" Json.text
  let typeCode ← Json.withDefault fields "type" "" Json.text
  let speed ← Json.withDefault fields "speed" 0.0 Json.double
  let operStatus ← Json.required fields "oper_status" LinkStatus.decode
  let adminStatus ← Json.withDefault fields "admin_status" none (Json.optional LinkStatus.decode)
  let address ← Json.withDefault fields "phys_address" .empty HardwareAddress.decode
  let outQueue ← Json.withDefault fields "out_qlen" none (Json.optional Json.double)
  let speedText ← Json.withDefault fields "speed_as_text" "" Json.text
  let group ← Json.withDefault fields "group" none (Json.optional Json.text)
  let node ← Json.withDefault fields "node" none (Json.optional Json.text)
  let extraInfo ← Json.withDefault fields "extra_info" none (Json.optional Json.text)
  let a ← Decoded.ofInterface (create index descr aliasName operStatus)
  return { a with
    typeCode, speed, adminStatus, address, outQueue, speedText, group, node, extraInfo }.normalized

def encode (a : Attributes) : Json :=
  .objOf [
    ("index", some (.str a.index)),
    ("descr", some (.str a.descr)),
    ("alias", some (.str a.aliasName)),
    ("type", some (.str a.typeCode)),
    ("speed", some (.ofFloat a.speed)),
    ("oper_status", some a.operStatus.encode),
    ("admin_status", a.adminStatus.map LinkStatus.encode),
    ("phys_address", if a.address.isEmpty then none else some a.address.encode),
    ("out_qlen", a.outQueue.map .ofFloat),
    ("speed_as_text", if a.speedText.isEmpty then none else some (.str a.speedText)),
    ("group", a.group.map .str),
    ("node", a.node.map .str),
    ("extra_info", a.extraInfo.map .str)]

end Attributes

end IfaceMonitor
