import IfaceMonitor.Config.Rule
import IfaceMonitor.Group.Config
import IfaceMonitor.Link.Interface

/-!
The groups of a host. Data sources declare groups by tagging interfaces, rules by listing groups; a
group that a rule lists is the rule's, and of several rules the one with the highest priority
decides.
-/

namespace IfaceMonitor

structure GroupDecl where
  name : String
  config : GroupConfig
  labels : Labels

abbrev GroupDecls := List GroupDecl

namespace GroupDecls

def put (decl : GroupDecl) : GroupDecls → GroupDecls
  | [] => [decl]
  | other :: rest => if other.name = decl.name then decl :: rest else other :: put decl rest

def putNew (decls : GroupDecls) (decl : GroupDecl) : GroupDecls :=
  if decls.any (·.name == decl.name) then decls else decls ++ [decl]

def putAll (decls others : GroupDecls) : GroupDecls :=
  others.foldl (fun decls decl => decls.put decl) decls

def exclusionsIn (rules : List DiscoveryRule) : List Criteria :=
  rules.filterMap fun r =>
    match r.grouping with
    | some g => if g.enabled then none else some r.criteria
    | none => none

def ofRule (above : List DiscoveryRule) (r : DiscoveryRule) : GroupDecls :=
  match r.grouping with
  | some g =>
    if g.enabled then
      g.items.map fun i =>
        { name := i.name
          config :=
            { memberNaming := i.memberNaming
              inclusion := some r.criteria
              exclusions := exclusionsIn above.reverse }
          labels := g.labels }
    else []
  | none => []

/-- The groups of a list of rules, where `above` has the rules of higher priority, in their order.
The last rule comes first, so that each rule overrides those after it. -/
def ofRulesBelow (above : List DiscoveryRule) : List DiscoveryRule → GroupDecls
  | [] => []
  | r :: rest => (ofRulesBelow (above ++ [r]) rest).putAll (ofRule above r)

def ofRules (rules : List DiscoveryRule) : GroupDecls :=
  ofRulesBelow [] rules

end GroupDecls

end IfaceMonitor
