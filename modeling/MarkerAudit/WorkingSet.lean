import MarkerAudit.Ascii
import MarkerAudit.FileTree.Walk
import MarkerAudit.Repository.Status

/-!
# Working sets

The files of a repository that are worked on: what is tracked, and what is new and not ignored, without what is
reported as deleted. They are listed by their paths from a directory of the work tree.
-/

namespace MarkerAudit

open Ascii

/-- Why there is no working set. The path of a root is the one that was given. -/
inductive ListingError
  | notAWorkTree (root : Bytes)
  | bareRepository (gitDirectory : Location)
  | unusableRepository
deriving DecidableEq, Repr

/-- The message about a working set that is missing. -/
def ListingError.message : ListingError → Text
  | .notAWorkTree root => "not inside a git working tree: ".toList ++ Utf8.decode root
  | .bareRepository l =>
    "git repository at ".toList ++ Utf8.decode (FileSystem.absolutePath l ++ [slash])
      ++ " has no working directory".toList
  | .unusableRepository => "git error: the repository cannot be read".toList

namespace WorkingSet

/-- The paths collected so far behind an entry of a status: a deleted path goes, and a new one comes in. An entry
whose path is not UTF-8 says nothing. -/
def update (files : List Text) (e : StatusEntry) : List Text :=
  match Utf8.decode? e.path with
  | none => files
  | some p =>
    if e.isDeleted then files.filter (· ≠ p)
    else if e.isNew then files.insert p
    else files

/-- The paths in a working set, in no certain order. Tracked paths are collected first, then the entries of the
status are gone through. Paths that are not UTF-8 are left out. -/
def paths (tracked : List Bytes) (status : List StatusEntry) : List Text :=
  status.foldl update (tracked.filterMap Utf8.decode?)

/-- What the paths of files below a directory start with, seen from the top of the work tree. A directory
elsewhere does not restrict the paths. -/
def scope (top directory : Location) : Text :=
  match dropPrefix? directory top with
  | some names => names.flatMap fun n => Utf8.decode n ++ ['/']
  | none => []

/-- The working set below a scope, in ascending order, by paths from there. -/
def list (scope : Text) (tracked : List Bytes) (status : List StatusEntry) : List Text :=
  (Text.sortedSet (paths tracked status)).filterMap fun p => dropPrefix? p scope

/-- The working set below the path `root`, which leads to `directory`. `found` is the repository that is found from
there, and `tell` tells the index and the status of a repository with a work tree. -/
def ofRepository (root : Bytes) (found : Except RepositoryError Repository)
    (directory : Except RepositoryError Location)
    (tell : Repository → Location → Except RepositoryError (Index × List StatusEntry)) :
    Except ListingError (List Text) :=
  match found, directory with
  | .error .notFound, _ => .error (.notAWorkTree root)
  | .error .unusable, _ => .error .unusableRepository
  | .ok _, .error _ => .error .unusableRepository
  | .ok r, .ok directory =>
    match r.workTree with
    | none => .error (.bareRepository r.gitDirectory)
    | some top =>
      match tell r top with
      | .error _ => .error .unusableRepository
      | .ok (index, status) => .ok (list (scope top directory) index.paths status)

/-- The index of a repository and the status of its work tree. -/
def tell (fs : FileSystem) (r : Repository) (top : Location) : Except RepositoryError (Index × List StatusEntry) :=
  match Repository.readIndex fs r with
  | .error e => .error e
  | .ok index =>
    if !r.hasHead fs then .error .unusable
    else
      let tree : WorkTree := { fileSystem := fs, top, index }
      .ok (index, tree.status (r.standingRules fs))

/-- The working set below a path. -/
def ofPath (fs : FileSystem) (root : Bytes) : Except ListingError (List Text) :=
  ofRepository root (Repository.discover fs root) (Repository.resolve fs root) (tell fs)

end WorkingSet
end MarkerAudit
