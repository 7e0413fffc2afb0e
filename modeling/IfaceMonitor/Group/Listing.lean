import IfaceMonitor.Group.Config
import IfaceMonitor.ItemName
import IfaceMonitor.Link.Interface

namespace IfaceMonitor

structure ListedMember where
  name : String
  operStatus : LinkStatus
  adminStatus : Option LinkStatus

def ListedMember.text (m : ListedMember) : String :=
  match m.adminStatus with
  | none => m.name ++ " (" ++ m.operStatus.name ++ ")"
  | some admin =>
    m.name ++ " (op. state: " ++ m.operStatus.name ++ ", admin state: " ++ admin.name ++ ")"

abbrev MemberListing := List (Option String × List ListedMember)

namespace MemberListing

def add (node : Option String) (member : ListedMember) : MemberListing → MemberListing
  | [] => [(node, [member])]
  | (other, members) :: rest =>
    if other = node then (other, members ++ [member]) :: rest else (other, members) ::
      add node member rest

def ofMembers (members : List (Option String × ListedMember)) : MemberListing :=
  members.foldl (fun listing m => listing.add m.1 m.2) []

def nodeText (showNode : Bool) (node : Option String) (members : List ListedMember) : String :=
  let place :=
    match showNode, node with
    | true, some node => " on node " ++ node
    | _, _ => ""
  "[" ++ ", ".intercalate (members.map ListedMember.text) ++ place ++ "]"

def text (listing : MemberListing) : String :=
  " ".intercalate (listing.map fun (node, members) => nodeText (1 < listing.length) node members)

end MemberListing

/-- The listing of a group. Indices are padded like the name of the group if that begins with a
zero. -/
def GroupConfig.listing (c : GroupConfig) (group : String) (members : List Attributes)
    (interfaces : Section) : MemberListing :=
  let width :=
    if group.toList.head? == some '0' then indexWidth? (interfaces.map (·.attributes)) else none
  .ofMembers <| members.map fun a =>
    (a.node,
      { name := (a.itemName c.memberNaming width).text
        operStatus := a.operStatus
        adminStatus := a.adminStatus })

end IfaceMonitor
