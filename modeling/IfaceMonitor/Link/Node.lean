import IfaceMonitor.Link.Interface

namespace IfaceMonitor

def Interface.onNode (node : String) (i : Interface) : Interface :=
  { i with attributes := { i.attributes with node := some node } }

def Section.ofNodes (nodes : List (String × Section)) : Section :=
  nodes.flatMap fun (node, interfaces) => interfaces.map (Interface.onNode node)

end IfaceMonitor
