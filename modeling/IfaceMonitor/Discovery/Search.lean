import IfaceMonitor.Discovery.Groups
import IfaceMonitor.Discovery.Service
import IfaceMonitor.Group.Combined

/-!
Which interfaces and groups become items. Each interface follows the first rule that has settings
for single items and whose criteria it meets. A name by which interfaces could be called more than
once is completed by the index, and a group in its place by the index 1.
-/

namespace IfaceMonitor

namespace Discovery

def settingsFor (rules : List DiscoveryRule) (a : Attributes) : SingleSettings :=
  (rules.findSome? fun r => r.single.filter fun _ => r.criteria.accepts a).getD .disabled

def widthFor (s : SingleSettings) (width : Option Nat) : Option Nat :=
  if s.padded then width else none

def sourcesOf (a : Attributes) : List NameSource :=
  if a.descr = a.aliasName then [.index, .descr] else [.index, .descr, .aliasName]

def appearances (rules : List DiscoveryRule) (width : Option Nat) (a : Attributes) : List String :=
  (sourcesOf a).map fun source => (a.itemName source (widthFor (settingsFor rules a) width)).text

structure DraftItem where
  name : String
  parameters : Discovered
  index : String
  labels : Labels
  isIndex : Bool

def sameNumber (a b : String) : Bool :=
  match Text.readWord? a, Text.readWord? b with
  | some m, some n => m == n
  | _, _ => false

def singleDraft (s : SingleSettings) (width : Option Nat) (a : Attributes) : DraftItem :=
  let name := a.itemName s.naming (widthFor s width)
  { name := name.text
    parameters :=
      { naming := some name.source
        operStates := some [a.operStatus]
        speed := some a.speed
        adminStates := a.adminStatus.map fun admin => [admin]
        group := none }
    index := a.index
    labels := s.labels
    isIndex := sameNumber name.text a.index }

/-- The drafts of the enabled interfaces whose index was not met before. -/
def singles (rules : List DiscoveryRule) (width : Option Nat) :
    List String → List Attributes → List DraftItem
  | _, [] => []
  | seen, a :: rest =>
    let s := settingsFor rules a
    if s.enabled && !seen.contains a.index then
      singleDraft s width a :: singles rules width (a.index :: seen) rest
    else singles rules width seen rest

/-- The group that the data source puts an interface into. Its members are named like the interface
that comes first. -/
def taggedGroup? (rules : List DiscoveryRule) (a : Attributes) : Option GroupDecl :=
  match a.group with
  | none => none
  | some name =>
    if name.isEmpty then none
    else some { name, config := .ofTag (settingsFor rules a).naming, labels := .empty }

def declaredGroups (rules : List DiscoveryRule) (attributes : List Attributes) : GroupDecls :=
  let tagged := (attributes.filterMap (taggedGroup? rules)).foldl GroupDecls.putNew []
  tagged.putAll (.ofRules rules)

def groupDraft? (interfaces : Section) (g : GroupDecl) : Option DraftItem :=
  let members := (g.config.membersIn g.name interfaces).map (·.attributes)
  if members.isEmpty then none
  else
    some
      { name := g.name
        parameters :=
          { naming := none
            operStates := some [Group.operStatus members]
            speed := some (Group.speed members)
            adminStates := none
            group := some g.config }
        index := "1"
        labels := g.labels
        isIndex := false }

def shownIndex (index : String) : String :=
  match Text.readWord? index with
  | some n => toString n
  | none => index

/-- The service of a draft, where `names` has all names of all interfaces. -/
def DraftItem.toService (names : List String) (d : DraftItem) : Service :=
  let ambiguous := 1 < names.count d.name
  { name := if ambiguous && !d.isIndex then d.name ++ " " ++ shownIndex d.index else d.name
    parameters := d.parameters
    labels := d.labels }

end Discovery

open Discovery in
def findServices (rules : List DiscoveryRule) (interfaces : Section) : List Service :=
  if interfaces.isEmpty then []
  else
    let attributes := interfaces.map (·.attributes)
    let width := indexWidth? attributes
    let names := attributes.flatMap (appearances rules width)
    let drafts :=
      singles rules width [] attributes ++ (declaredGroups rules attributes).filterMap
        (groupDraft? interfaces)
    drafts.map (·.toService names)

end IfaceMonitor
