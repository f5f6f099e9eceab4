import MarkerAudit.FileTree.Walk
import MarkerAudit.Mode
import MarkerAudit.Scan
import MarkerAudit.WorkingSet

/-!
# Candidate files

The files that a run may scan: the working set of a repository, or every file below a directory. Where that is
left open, a work tree decides.
-/

namespace MarkerAudit

/-- The mode that files are listed in: one that is left open becomes `git` in a work tree and `find`
elsewhere. -/
def SearchMode.resolve (fs : FileSystem) (root : Bytes) : SearchMode → SearchMode
  | .auto => if Repository.isWorkTree fs root then .git else .find
  | m => m

namespace FileSystem

/-- The candidate files below a directory, in ascending order, by paths from there. -/
def candidates (fs : FileSystem) (mode : SearchMode) (root : Bytes) : Except ListingError (List Text) :=
  match mode.resolve fs root with
  | .git => WorkingSet.ofPath fs root
  | _ => .ok (fs.listFiles root)

/-- What is found in the file at a path below a directory. What opens and is no regular file holds nothing. -/
def scanFile (fs : FileSystem) (root : Bytes) (path : Text) (ms : MarkerSet) : Except PathError (List Finding) :=
  match fs.node (Path.join root (Utf8.encode path)) with
  | .error e => .error e
  | .ok (.file content) => .ok (Scan.contents ms path content)
  | .ok (.special .socket) => .error .noDevice
  | .ok _ => .ok []

/-- Whether opening the file at a path below a directory waits, which it does at a pipe. -/
def waitsAt (fs : FileSystem) (root : Bytes) (path : Text) : Bool :=
  match fs.node (Path.join root (Utf8.encode path)) with
  | .ok (.special .pipe) => true
  | _ => false

/-- What is found in files below a directory, in order. A file that cannot be read holds nothing. -/
def scanFiles (fs : FileSystem) (root : Bytes) (paths : List Text) (ms : MarkerSet) : List Finding :=
  paths.flatMap fun p => ((fs.scanFile root p ms).toOption).getD []

end FileSystem
end MarkerAudit
