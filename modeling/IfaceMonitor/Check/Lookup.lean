import IfaceMonitor.ItemName
import IfaceMonitor.Link.Interface

/-!
The interfaces that an item means at check time, at most one on each cluster node. An item is an
index (leading zeros do not count), an alias or a description, or one of the latter two completed by
the index; if the source of the item's name is known, only that is tried.
-/

namespace IfaceMonitor

namespace Lookup

def allows (source : Option NameSource) (other : NameSource) : Bool :=
  source.all (· == other)

/-- Without leading zeros the item is the index; an item of zeros means an index that is zero or no
number. -/
def isIndex (item : String) (a : Attributes) : Bool :=
  let digits := item.toList
  String.ofList (digits.dropWhile (· == '0')) == a.index
    || (digits.all (· == '0') && (Text.readSigned? a.index).getD 0 == 0)

def isSimple (item : String) (source : Option NameSource) (a : Attributes) : Bool :=
  (allows source .index && isIndex item a)
    || (allows source .aliasName && item == a.aliasName)
    || (allows source .descr && item == a.descr)

def isCompound (item : String) (source : Option NameSource) (a : Attributes) : Bool :=
  (allows source .aliasName && item == a.aliasName ++ " " ++ a.index)
    || (allows source .descr && item == a.descr ++ " " ++ a.index)

def first? (item : String) (source : Option NameSource) (attributes : α → Attributes)
    (xs : List α) : Option α :=
  xs.find? (fun x => isSimple item source (attributes x))
    <|> xs.find? fun x => isCompound item source (attributes x)

def nodeLe : Option String → Option String → Bool
  | none, _ => true
  | some _, none => false
  | some a, some b => a ≤ b

def byNode (attributes : α → Attributes) (xs : List α) : List (List α) :=
  (xs.mergeSort fun x y => nodeLe (attributes x).node (attributes y).node).splitBy fun x y =>
    (attributes x).node == (attributes y).node

/-- A section is clustered if its first interface has a node. -/
def matchesIn (item : String) (source : Option NameSource) (attributes : α → Attributes)
    (xs : List α) : List α :=
  match xs with
  | [] => []
  | x :: _ =>
    if (attributes x).node.isNone then (first? item source attributes xs).toList
    else (byNode attributes xs).filterMap (first? item source attributes)

end Lookup

def Section.meantBy (interfaces : Section) (item : String) (source : Option NameSource) :
    List Interface :=
  Lookup.matchesIn item source Interface.attributes interfaces

end IfaceMonitor
