import MarkerAudit.Ascii
import MarkerAudit.Text

/-!
# File trees

A file system as a value: directories with named entries. Names are bytes, as the system keeps them.
-/

namespace MarkerAudit

open Ascii

/-- The name of an entry: any bytes but a slash and zero. -/
abbrev Name := Bytes

/-- The kinds of entries that keep no contents. Opening a pipe to read it waits until something opens it to write, a
socket cannot be opened, and a device can. -/
inductive Special
  | pipe
  | socket
  | device
deriving DecidableEq, Repr

/-- What a name in a directory stands for. -/
inductive Node
  | file (content : Bytes)
  | directory (entries : List (Name × Node))
  | symlink (target : Bytes)
  | special (kind : Special)
deriving Repr, Inhabited

/-- Where a node is: the names on the way to it from the root of the file system. -/
abbrev Location := List Name

/-- A location as a path with slashes between names. -/
def Location.path (l : Location) : Bytes := (l.flatMap (slash :: ·)).drop 1

namespace Node

/-- Whether the node is a regular file. -/
def isFile : Node → Bool
  | .file _ => true
  | _ => false

/-- Whether the node is a directory. -/
def isDirectory : Node → Bool
  | .directory _ => true
  | _ => false

/-- The entries of a directory. -/
def entries : Node → List (Name × Node)
  | .directory es => es
  | _ => []

/-- The entry of a directory with a name. -/
def child? (n : Node) (name : Name) : Option Node :=
  (n.entries.find? fun e => e.1 = name).map Prod.snd

/-- The node at a location, seen from `n`. No symlink is followed. -/
def get? (n : Node) : Location → Option Node
  | [] => some n
  | name :: rest =>
    match n.child? name with
    | some c => c.get? rest
    | none => none

/-- The locations of all regular files below the node. No symlink is followed. -/
def files : Node → List Location
  | .file _ | .symlink _ | .special _ => []
  | .directory entries => filesOf entries
where
  /-- The locations of the regular files among entries and below them. -/
  filesOf : List (Name × Node) → List Location
    | [] => []
    | (name, n) :: rest =>
      (if n.isFile then [[name]] else n.files.map (name :: ·)) ++ filesOf rest

/-! ## Changes -/

/-- The entries with the one of a name replaced, added at the end, or removed. -/
def setEntry (name : Name) (value : Option Node) : List (Name × Node) → List (Name × Node)
  | [] => (value.map fun v => (name, v)).toList
  | e :: rest =>
    if e.1 = name then (value.map fun v => (name, v)).toList ++ rest else e :: setEntry name value rest

/-- The node with what is at a location replaced or removed. What is missing on the way, or is no directory,
becomes a directory. -/
def set (n : Node) (value : Option Node) : Location → Node
  | [] => value.getD n
  | [name] => .directory (setEntry name value n.entries)
  | name :: rest =>
    let child := (n.child? name).getD (.directory [])
    .directory (setEntry name (some (child.set value rest)) n.entries)

/-- The node with whatever a tree has and it lacks. What is there already stays. -/
def fill (n : Node) : (tree : Node) → Node
  | .directory wanted =>
    match n with
    | .directory entries => .directory (fillAll entries wanted)
    | _ => n
  | _ => n
where
  /-- Entries with others that they lack, and with what these have and theirs lack. -/
  fillAll (entries : List (Name × Node)) : (wanted : List (Name × Node)) → List (Name × Node)
    | [] => entries
    | (name, tree) :: rest =>
      let value := match (directory entries).child? name with
        | some c => c.fill tree
        | none => tree
      fillAll (setEntry name (some value) entries) rest

end Node
end MarkerAudit
