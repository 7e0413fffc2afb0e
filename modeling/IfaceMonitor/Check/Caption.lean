import IfaceMonitor.Check.Entry
import IfaceMonitor.Config.Settings

namespace IfaceMonitor

def groupTitle : String := "Interface group"

namespace Attributes

def infoIn (a : Attributes) : InfoFormat → String
  | .aliasName => a.aliasName
  | .descr => a.descr
  | .both => ", ".intercalate ([a.aliasName, a.descr].filter fun s => !s.isEmpty)
  | .aliasFirst => if a.aliasName.isEmpty then a.descr else a.aliasName
  | .descrFirst => if a.descr.isEmpty then a.aliasName else a.descr

def bracketed (text : String) : String :=
  "[" ++ text ++ "]"

def standardInfo (a : Attributes) (item : String) : String :=
  let trivial := fun (name : String) => name.isEmpty || name == item
  let isIndex := item == a.index || String.ofList (item.toList.dropWhile (· == '0')) == a.index
  if isIndex && trivial a.aliasName && trivial a.descr then ""
  else if item == a.aliasName ++ " " ++ a.index && !a.descr.isEmpty then
    bracketed (a.aliasName ++ "/" ++ a.descr)
  else if !trivial a.aliasName then bracketed a.aliasName
  else if !trivial a.descr then bracketed a.descr
  else bracketed a.index

def info (a : Attributes) (item : String) (format : Option InfoFormat) : String :=
  match format with
  | none => a.standardInfo item
  | some format =>
    let text := a.infoIn format
    if text.isEmpty then "" else bracketed text

def infoWithNode (a : Attributes) (item : String) (format : Option InfoFormat) : String :=
  let info := a.info item format
  match a.node with
  | none => info
  | some node => if info.isEmpty then "On " ++ node else info ++ " on " ++ node

def caption (a : Attributes) (isGroup : Bool) (item : String) (format : Option InfoFormat) :
    Option Finding :=
  if isGroup then some (.summary .ok groupTitle)
  else
    let text := a.infoWithNode item format
    if text.isEmpty then none else some (.summary .ok text)

end Attributes

end IfaceMonitor
