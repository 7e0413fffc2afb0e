import IfaceMonitor.Group.Config
import IfaceMonitor.Rate.Measured

/-!
A group as one interface. Its state tells how many members are up; speed, queue length and rates
count only the members that are up. `asInterface` sums the traffic records of all members,
`Measured.ofMembers` the rates that were measured for them.
-/

namespace IfaceMonitor

namespace GroupConfig

def membersIn (c : GroupConfig) (group : String) (interfaces : Section) : List Interface :=
  interfaces.filter fun i => c.includes group i.attributes

end GroupConfig

namespace Group

/-- Up if all members are, degraded if some are, down if none is. -/
def operStatus (members : List Attributes) : LinkStatus :=
  let up := members.countP (·.isUp)
  if up = 0 then .down else if up = members.length then .up else .degraded

/-- The sum from the left, starting at minus zero, which is the sum of nothing. -/
def sum (xs : List Float) : Float :=
  xs.foldl (· + ·) (-0.0)

def speed (members : List Attributes) : Float :=
  sum ((members.filter (·.isUp)).map (·.speed))

/-- The sum of the queue lengths of the members that are up, if some are and all of these report
it. -/
def outQueue (members : List Attributes) : Option Float :=
  if (operStatus members).isDown then none
  else (members.filter (·.isUp)).foldlM (fun total a => a.outQueue.map (total + ·)) 0.0

def nodeNames (members : List Attributes) : List String :=
  (Table.ofList (members.map fun a => (a.nodeName, ()))).keys

def description (members : List Attributes) : String :=
  let nodes := nodeNames members
  let nodePart := if 1 < nodes.length then ["nodes: " ++ ", ".intercalate nodes] else []
  let countPart :=
    if members.isEmpty then [] else [toString members.length ++ " grouped interfaces"]
  ", ".intercalate (nodePart ++ countPart)

def attributes (group : String) (members : List Attributes) : Attributes where
  index := group
  descr := group
  aliasName := description members
  typeCode := (members.getLast?.map (·.typeCode)).getD ""
  speed := speed members
  operStatus := operStatus members
  adminStatus := none
  address := .empty
  outQueue := outQueue members
  speedText := ""
  group := none
  node := none
  extraInfo := none

def traffic (members : List Interface) : Traffic :=
  match members with
  | ⟨_, .rates _⟩ :: _ =>
    .rates <| members.foldl (fun total i =>
      match i.traffic with
      | .rates rates => PlainRates.add total rates
      | .counters _ => total) .missing
  | _ =>
    .counters <| members.foldl (fun total i =>
      match i.traffic with
      | .counters counters => RawCounters.add total counters
      | .rates _ => total) .missing

def asInterface (group : String) (config : GroupConfig) (interfaces : Section) : Interface :=
  let members := config.membersIn group interfaces
  { attributes := attributes group (members.map (·.attributes)), traffic := traffic members }

end Group

def Measured.ofMembers (group : String) (members : List Measured) : Measured :=
  let up := members.filter (·.attributes.isUp)
  { attributes := Group.attributes group (members.map (·.attributes))
    rates := up.foldl (fun total m => total.add m.rates) .missing
    gaps := up.flatMap (·.gaps) }

end IfaceMonitor
