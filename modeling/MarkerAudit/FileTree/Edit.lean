import MarkerAudit.Ascii
import MarkerAudit.FileTree.Path

/-!
# Changing a file system

Making, replacing, removing and moving what is at a path.
-/

namespace MarkerAudit.FileSystem

open Ascii

/-- The file system with the node at a location replaced or removed. -/
def set (fs : FileSystem) (l : Location) (value : Option Node) : FileSystem :=
  { fs with root := fs.root.set value l }

/-- Goes through components from a directory and makes the directories that are missing. -/
def makeFrom (fs : FileSystem) (here : Location) : List Name → Except PathError (FileSystem × Location)
  | [] =>
    match fs.root.get? here with
    | some (.directory _) => .ok (fs, here)
    | _ => .error .notDirectory
  | c :: rest =>
    match walkLinks fs.root true Path.maxLinks [c] here with
    | .ok l => fs.makeFrom l rest
    | .error .notFound => (fs.set (here ++ [c]) (some (.directory []))).makeFrom (here ++ [c]) rest
    | .error e => .error e

/-- Makes a directory with those above it, unless it is there. -/
def makeDirectory (fs : FileSystem) (path : Bytes) : Except PathError (FileSystem × Location) :=
  if path.contains 0 then .error .holdsZero
  else fs.makeFrom (if Path.isAbsolute path then [] else fs.current) (Path.components path)

/-- The path of the directory that holds what is at `path`, and its name there. -/
def splitLast (path : Bytes) : Option (Bytes × Name) :=
  match (Path.components path).getLast? with
  | none => none
  | some name =>
    let above := (Path.components path).dropLast
    let lead : Bytes := if Path.isAbsolute path then [slash] else [period, slash]
    some (lead ++ above.flatMap (· ++ [slash]), name)

/-- Puts a node at a path, in a directory that is made if it is missing. -/
def put (fs : FileSystem) (path : Bytes) (n : Node) : Except PathError FileSystem :=
  match splitLast path with
  | none => .error .notFound
  | some (above, name) =>
    match fs.makeDirectory above with
    | .error e => .error e
    | .ok (fs, here) => .ok (fs.set (here ++ [name]) (some n))

/-- Writes a file, through a symlink if the path leads to a file by one. -/
def writeFile (fs : FileSystem) (path content : Bytes) : Except PathError FileSystem :=
  match fs.locate true path with
  | .ok l =>
    match fs.root.get? l with
    | some (.file _) => .ok (fs.set l (some (.file content)))
    | _ => .error .notDirectory
  | .error _ => fs.put path (.file content)

/-- Removes what is at a path, with everything below it; a symlink goes itself. -/
def remove (fs : FileSystem) (path : Bytes) : Except PathError FileSystem :=
  match fs.locate false path with
  | .error e => .error e
  | .ok l => .ok (fs.set l none)

/-- Moves what is at a path. -/
def rename (fs : FileSystem) (path target : Bytes) : Except PathError FileSystem :=
  match fs.locate false path with
  | .error e => .error e
  | .ok l =>
    match fs.root.get? l with
    | none => .error .notFound
    | some n => (fs.set l none).put target n

end MarkerAudit.FileSystem
