namespace IfaceMonitor.CommandLine

inductive Reading
  | bytes (content : ByteArray)
  | missing
  | refused
  | unreadable

structure FileAccess (m : Type → Type) where
  read : String → m Reading
  replace : String → String → m Bool

end IfaceMonitor.CommandLine
