import MarkerAudit.Ascii
import MarkerAudit.FileTree.Path
import MarkerAudit.Utf8

/-!
# Listing a directory

Every regular file below a directory, hidden ones included, by its path from there. Symlinks are not followed,
but for the directory itself.
-/

namespace MarkerAudit

open Ascii

/-- A location below a directory as a path, with U+FFFD for what is not UTF-8. -/
def relativePath (l : Location) : Text :=
  Text.joinWith ['/'] (l.map Utf8.decode)

namespace FileSystem

/-- The path of a standard input, which names no directory. -/
def standardInput : Bytes := [hyphen]

/-- The regular files below `root`, sorted. There are none if that is no directory. -/
def listFiles (fs : FileSystem) (root : Bytes) : List Text :=
  if root = standardInput then []
  else match fs.node root with
    | .ok n => Text.sort (n.files.map relativePath)
    | .error _ => []

end FileSystem
end MarkerAudit
