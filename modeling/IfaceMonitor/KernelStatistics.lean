import IfaceMonitor.Link.Interface

/-!
The interface statistics that a Linux kernel lists, one interface a line after two lines of headers:
a name, a colon and at least sixteen numbers. Interfaces are indexed by position, starting at 1;
numbers that cannot be read are zero.
-/

namespace IfaceMonitor

namespace KernelStatistics

def loopbackType : String := "24"

def ethernetType : String := "6"

def fieldValue (field : List Char) : UInt64 :=
  ((Text.readUnsigned? 10 (Nat.pow 2 64) field).getD 0).toUInt64

def subtractToZero (a b : UInt64) : UInt64 :=
  if b ≤ a then a - b else 0

/-- The counters behind the name: received bytes, packets, errors, drops and, as the eighth,
multicast packets, which are also counted as packets; then sent bytes, packets, errors and drops. -/
def counters? : List UInt64 → Option RawCounters
  | rxBytes :: rxPackets :: rxErrors :: rxDrops :: _ :: _ :: _ :: rxMulticast ::
      txBytes :: txPackets :: txErrors :: txDrops :: _ :: _ :: _ :: _ :: _ =>
    some
      { inOctets := some rxBytes
        inUcast := some (subtractToZero rxPackets rxMulticast)
        inMcast := some rxMulticast
        inBcast := none
        inDisc := some rxDrops
        inErr := some rxErrors
        outOctets := some txBytes
        outUcast := some txPackets
        outMcast := none
        outBcast := none
        outDisc := some txDrops
        outErr := some txErrors }
  | _ => none

def line? (line : List Char) : Option (String × RawCounters) := do
  let (name, data) ← Text.cutAt? (· == ':') (Text.trimChars line)
  let counters ← counters? ((Text.words data).map fieldValue)
  return (String.ofList (Text.trimChars name), counters)

def interface (index : Nat) (name : String) (counters : RawCounters) :
    Except InterfaceError Interface := do
  let attributes ← Attributes.create (toString index) name name .up
  let typeCode := if name == "lo" then loopbackType else ethernetType
  return { attributes := attributes.setTypeCode typeCode, traffic := .counters counters }

def interfacesFrom : Nat → List (String × RawCounters) → Except InterfaceError Section
  | _, [] => .ok []
  | index, (name, counters) :: rest => do
    let first ← interface index name counters
    let others ← interfacesFrom (index + 1) rest
    return first :: others

def parse (text : String) : Except InterfaceError Section :=
  interfacesFrom 1 (((Text.splitWhen (· == '\n') text.toList).drop 2).filterMap line?)

end KernelStatistics

end IfaceMonitor
