import IfaceMonitor.Check.Entry
import IfaceMonitor.Config.Settings
import IfaceMonitor.Quantity

/-!
The states and the speed of an interface. A mapping of state pairs decides alone where it has the
pair; otherwise each state is mapped on its own or, if it is not mapped, compared with the expected
ones.
-/

namespace IfaceMonitor

/-- A state outside the expected ones is critical; an explicit mapping goes before that. -/
def judgeStatus (status : LinkStatus) (targets : Option (List LinkStatus)) (mapped : Option State) :
    State :=
  mapped.getD (if targets.all (·.contains status) then .ok else .crit)

namespace StateMapping

def mappedOper (m : Option StateMapping) (status : LinkStatus) : Option State :=
  match m with
  | some (.independent oper _) => oper.lookup status
  | _ => none

def mappedAdmin (m : Option StateMapping) (status : LinkStatus) : Option State :=
  match m with
  | some (.independent _ admin) => admin.lookup status
  | _ => none

def pairState (m : Option StateMapping) (a : Attributes) : Option (LinkStatus × State) :=
  match m, a.adminStatus with
  | some (.combined pairs), some admin => (pairs.lookup (a.operStatus, admin)).map (admin, ·)
  | _, _ => none

end StateMapping

namespace Attributes

def statusResults (a : Attributes) (mapping : Option StateMapping)
    (operTargets adminTargets : Option (List LinkStatus)) : List Finding :=
  match StateMapping.pairState mapping a with
  | some (admin, state) =>
    [.summary state ("(op. state: " ++ a.operStatus.name ++ ", admin state: " ++ admin.name ++ ")")]
  | none =>
    let oper := judgeStatus a.operStatus operTargets (StateMapping.mappedOper mapping a.operStatus)
    let adminResults := a.adminStatus.toList.map fun admin =>
      Finding.summary (judgeStatus admin adminTargets (StateMapping.mappedAdmin mapping admin))
        ("Admin state: " ++ admin.name)
    .summary oper ("(" ++ a.operStatus.name ++ ")") :: adminResults

def speedResult (a : Attributes) (target : Option Float) : Finding :=
  if a.speed != 0.0 then
    let actual := "Speed: " ++ Quantity.linkSpeed (a.speed / 8.0)
    match target.filter fun t => !Decimal.sameWholePart a.speed t with
    | some t => .summary .warn (actual ++ " (expected: " ++ Quantity.linkSpeed (t / 8.0) ++ ")")
    | none => .summary .ok actual
  else
    match target.filter fun t => t != 0.0 with
    | some t => .summary .ok ("Speed: " ++ Quantity.linkSpeed (t / 8.0) ++ " (assumed)")
    | none => .summary .ok ("Speed: " ++ if a.speedText.isEmpty then "unknown" else a.speedText)

end Attributes

end IfaceMonitor
