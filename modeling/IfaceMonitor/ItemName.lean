import IfaceMonitor.Link.Attributes

namespace IfaceMonitor

inductive NameSource
  | index
  | descr
  | aliasName
  deriving DecidableEq

namespace NameSource

def name : NameSource → String
  | index => "index"
  | descr => "descr"
  | aliasName => "alias"

def names : List (String × NameSource) :=
  [("index", index), ("descr", descr), ("alias", aliasName)]

def decode : Json → Decoded NameSource :=
  Json.choice names

def decodeCollected : Json → Decoded NameSource :=
  Json.collectedChoice names

def encode (s : NameSource) : Json :=
  .str s.name

end NameSource

structure ItemName where
  source : NameSource
  text : String

def indexWidth? (attributes : List Attributes) : Option Nat :=
  (attributes.filterMap fun a => Text.readWord? a.index).max?.map fun n => (toString n).length

def indexText (index : String) (width : Option Nat) : String :=
  match width, Text.readWord? index with
  | some width, some n => Text.padded width n
  | _, _ => index

def Attributes.itemName (a : Attributes) (source : NameSource) (width : Option Nat) : ItemName :=
  match source with
  | .descr =>
    if a.descr.isEmpty then ⟨.index, indexText a.index width⟩ else ⟨.descr, a.descr⟩
  | .aliasName =>
    if a.aliasName.isEmpty then ⟨.index,
    indexText a.index width⟩ else ⟨.aliasName, a.aliasName⟩
  | .index => ⟨.index, indexText a.index width⟩

end IfaceMonitor
