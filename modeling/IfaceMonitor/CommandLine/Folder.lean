import IfaceMonitor.CommandLine.Files
import IfaceMonitor.Table
import IfaceMonitor.Text.Blank

/-!
A working directory of text files as the state that file operations act on. A path is followed name
by name, through the directories that every system has; a file that is replaced is first written
next to its place. What was put in a place is read from it (`Folder.read_replace`).
-/

namespace IfaceMonitor.CommandLine

abbrev Directory := List String

namespace Directory

def temporary : Directory := ["tmp"]

/-- A temporary directory whose own name no path can hold. -/
def working : Directory := "" :: temporary

def standing : List Directory :=
  [] :: working :: temporary ::
    ["bin", "boot", "dev", "etc", "home", "lib", "lib64", "media", "mnt", "opt", "proc", "root",
      "run", "sbin", "srv", "sys", "usr", "var"].map fun name => [name]

end Directory

/-- Texts of the files in the working directory by name, and of those next to it by path. -/
abbrev Folder := Table String

namespace Folder

inductive Place
  | entry (key : String)
  | null
  | directory
  | missing
  | refused

def placeIn (here : Directory) (name : String) : Place :=
  if here = .working then .entry name
  else if here = .temporary then .entry ("/tmp/" ++ name)
  else if here = ["dev"] && name = "null" then .null
  else .missing

def isFile (files : Folder) : Place → Bool
  | .entry key => (files.get? key).isSome
  | .null => true
  | _ => false

def longestName : Nat := 255

def longestPath : Nat := 4095

def resolve (files : Folder) : Directory → List (List Char) → Place
  | _, [] => .directory
  | here, part :: rest =>
    if part = [] || part = ['.'] then resolve files here rest
    else if part = ['.', '.'] then resolve files here.tail rest
    else
      let name := String.ofList part
      if longestName < name.utf8ByteSize then .refused
      else if name :: here ∈ Directory.standing then resolve files (name :: here) rest
      else if rest.isEmpty then placeIn here name
      else if files.isFile (placeIn here name) then .refused
      else .missing

def place (files : Folder) (path : String) : Place :=
  let cs := path.toList
  if cs.contains '\x00' || longestPath < path.utf8ByteSize then .refused
  else if cs.isEmpty then .missing
  else resolve files (if cs.head? = some '/' then [] else .working) (Text.splitWhen (· == '/') cs)

def read (files : Folder) (path : String) : Reading :=
  match files.place path with
  | .entry key =>
    match files.get? key with
    | some text => .bytes text.toUTF8
    | none => .missing
  | .null => .bytes .empty
  | .directory => .unreadable
  | .missing => .missing
  | .refused => .refused

def put? (files : Folder) (path content : String) : Option Folder :=
  match files.place path with
  | .entry key => some (files.insert key content)
  | _ => none

def replace (files : Folder) (path content : String) : Option Folder :=
  match files.place (path ++ ".tmp") with
  | .entry temporary => put? (files.erase temporary) path content
  | _ => none

def listing (files : Folder) : List (String × String) :=
  files.entries.filter fun (key, _) => !key.toList.contains '/'

theorem resolve_eq_entry {files other : Folder} {here : Directory} {parts : List (List Char)}
    {key : String} (h : resolve files here parts = .entry key) :
    resolve other here parts = .entry key := by
  fun_induction resolve files here parts with
  | case1 => simp at h
  | case2 here part rest hpart ih => simpa [resolve, hpart] using ih h
  | case3 here rest hpart ih => simpa [resolve] using ih h
  | case4 => simp at h
  | case5 here part rest hpart hup name hlong hdir ih =>
    simpa [resolve, hpart, hup, name, hlong, hdir] using ih h
  | case6 here part rest hpart hup name hlong hdir hrest =>
    simpa [resolve, hpart, hup, name, hlong, hdir, hrest] using h
  | case7 => simp at h
  | case8 => simp at h

theorem place_eq_entry {files : Folder} {path key : String} (other : Folder)
    (h : files.place path = .entry key) :
    other.place path = .entry key := by
  simp only [place] at h ⊢
  split at h
  · simp at h
  · rename_i hrefused
    split at h
    · simp at h
    · rename_i hempty
      rw [if_neg hrefused, if_neg hempty]
      exact resolve_eq_entry h

theorem read_put? {files after : Folder} {path content : String}
    (h : files.put? path content = some after) :
    after.read path = .bytes content.toUTF8 := by
  unfold put? at h
  split at h
  · rename_i key hplace
    obtain rfl := Option.some.inj h
    simp [read, place_eq_entry _ hplace, Table.get?_insert]
  · simp at h

theorem read_replace {files after : Folder} {path content : String}
    (h : files.replace path content = some after) :
    after.read path = .bytes content.toUTF8 := by
  unfold replace at h
  split at h
  · exact read_put? h
  · simp at h

def access : FileAccess (StateM Folder) where
  read path := do return (← get).read path
  replace path content := do
    match (← get).replace path content with
    | some files => do
      set files
      return true
    | none => return false

end Folder

end IfaceMonitor.CommandLine
