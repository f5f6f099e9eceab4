import MarkerAudit.Ascii
import MarkerAudit.FileTree.Basic

/-!
# Paths

Paths are resolved component by component, through directories and symlinks, as the system does it. The
result is a location, in which no name is `.`, `..` or a symlink on the way.
-/

namespace MarkerAudit

open Ascii

/-- A file system and the directory in it that relative paths start from. -/
structure FileSystem where
  root : Node
  current : Location
deriving Repr

/-- Why a path leads nowhere, or to something that cannot be opened. -/
inductive PathError
  | notFound
  | notDirectory
  | nameTooLong
  | tooManyLinks
  | holdsZero
  | noDevice
deriving DecidableEq, Repr

/-- The message about a path that cannot be opened. -/
def PathError.message : PathError → Text
  | .notFound => "No such file or directory (os error 2)".toList
  | .notDirectory => "Not a directory (os error 20)".toList
  | .nameTooLong => "File name too long (os error 36)".toList
  | .tooManyLinks => "Too many levels of symbolic links (os error 40)".toList
  | .holdsZero => "file name contained an unexpected NUL byte".toList
  | .noDevice => "No such device or address (os error 6)".toList

namespace Path

/-- The component for the directory itself. -/
def dot : Name := [period]

/-- The component for the directory above. -/
def dotDot : Name := [period, period]

/-- Whether a path starts from the root of the file system. -/
def isAbsolute (path : Bytes) : Bool := path.head? = some slash

/-- The components of a path. A slash at the end asks for a directory, as a last component `.` does. -/
def components (path : Bytes) : List Name :=
  (segments slash path).filter (· ≠ []) ++ if path.getLast? = some slash then [dot] else []

/-- The path of `path` seen from the directory `base`. -/
def join (base path : Bytes) : Bytes :=
  if isAbsolute path || base.isEmpty then path
  else if base.getLast? = some slash then base ++ path
  else base ++ slash :: path

/-- The longest name of an entry, in bytes. -/
def maxName : Nat := 255

/-- The longest path, in bytes. -/
def maxPath : Nat := 4095

/-- How many symlinks one path may go through. -/
def maxLinks : Nat := 40

end Path

namespace FileSystem

/-- Goes through components from a directory. A symlink on the way, or at the end if `followLast` is set, is
left to `follow`, which gets the directory that holds it, its target and the components behind it. -/
def walk (root : Node) (followLast : Bool)
    (follow : Location → Bytes → List Name → Except PathError Location) :
    List Name → Location → Except PathError Location
  | [], here => .ok here
  | c :: rest, here =>
    match root.get? here with
    | some (.directory entries) =>
      if c = Path.dot then walk root followLast follow rest here
      else if c = Path.dotDot then walk root followLast follow rest here.dropLast
      else if Path.maxName < c.length then .error .nameTooLong
      else match (Node.directory entries).child? c with
        | none => .error .notFound
        | some (.symlink target) =>
          if rest.isEmpty && !followLast then .ok (here ++ [c]) else follow here target rest
        | some _ => walk root followLast follow rest (here ++ [c])
    | _ => .error .notDirectory

/-- Goes through components and through at most `links` symlinks. -/
def walkLinks (root : Node) (followLast : Bool) : (links : Nat) → List Name → Location →
    Except PathError Location
  | 0, components, here => walk root followLast (fun _ _ _ => .error .tooManyLinks) components here
  | links + 1, components, here =>
    walk root followLast (fun here target rest =>
      walkLinks root followLast links (Path.components target ++ rest)
        (if Path.isAbsolute target then [] else here)) components here

/-- The location that a path leads to. A symlink at its end is followed if `followLast` is set. -/
def locate (fs : FileSystem) (followLast : Bool) (path : Bytes) : Except PathError Location :=
  if path.contains 0 then .error .holdsZero
  else if path.isEmpty then .error .notFound
  else if Path.maxPath < path.length then .error .nameTooLong
  else walkLinks fs.root followLast Path.maxLinks (Path.components path)
    (if Path.isAbsolute path then [] else fs.current)

/-- The node that a path leads to, through every symlink. -/
def node (fs : FileSystem) (path : Bytes) : Except PathError Node :=
  match fs.locate true path with
  | .error e => .error e
  | .ok l =>
    match fs.root.get? l with
    | some n => .ok n
    | none => .error .notFound

/-- Whether a path leads to something. -/
def leadsSomewhere (fs : FileSystem) (path : Bytes) : Bool :=
  match fs.node path with
  | .ok _ => true
  | .error _ => false

/-- A location as an absolute path. -/
def absolutePath (l : Location) : Bytes :=
  if l.isEmpty then [slash] else l.flatMap (slash :: ·)

end FileSystem
end MarkerAudit
