import MarkerAudit.Ascii
import MarkerAudit.Repository.Discovery
import MarkerAudit.Repository.Ignore

/-!
# Status of a work tree

What distinguishes a work tree from its index: tracked paths that are gone, and paths that are there but neither
tracked nor ignored. Symlinks are not followed.
-/

namespace MarkerAudit

open Ascii

/-- What is said about a path of a work tree. -/
structure StatusEntry where
  path : Bytes
  isDeleted : Bool := false
  isNew : Bool := false
deriving DecidableEq, Repr

/-- A work tree in a file system, and the index that it is compared with. -/
structure WorkTree where
  fileSystem : FileSystem
  top : Location
  index : Index

namespace WorkTree

/-- What is at a location in the work tree. -/
def node? (w : WorkTree) (l : Location) : Option Node :=
  (w.fileSystem.root.get? w.top).bind fun n => n.get? l

/-- Whether something of the tracked kind is in the place of an entry: a directory counts only for a
submodule. -/
def isInPlace (w : WorkTree) (e : IndexEntry) : Bool :=
  match w.node? (segments slash e.path) with
  | some (.file _) | some (.symlink _) => true
  | some (.directory _) => e.kind = .submodule
  | _ => false

/-- Whether an entry is reported as deleted. Sides of a merge are not, nor is what is assumed to be unchanged. -/
def isDeleted (w : WorkTree) (e : IndexEntry) : Bool :=
  e.stage = 0 && !e.assumeUnchanged && !w.isInPlace e

/-! ## Ignored locations -/

/-- The rules of the ignore file in a directory of the work tree. -/
def ignoreFileIn (w : WorkTree) (l : Location) : IgnoreFile :=
  match Repository.fileAt? w.fileSystem (Repository.below (w.top ++ l) ".gitignore") with
  | some content => .ofContent l content
  | none => ⟨l, []⟩

/-- Whether a name is that of a repository's directory, in upper or lower case. -/
def isDotGit (name : Name) : Bool := name.map Config.lower = Repository.dotGit

/-- Whether a directory holds an entry `.git`. -/
def holdsRepository (w : WorkTree) (l : Location) : Bool :=
  w.fileSystem.leadsSomewhere (FileSystem.absolutePath (w.top ++ l ++ [Repository.dotGit]))

/-- Whether there is a file that is not ignored in a node at `l` or below it. No ignored directory is
entered. -/
def holdsFile (w : WorkTree) (files : List IgnoreFile) (ignored : Bool) (l : Location) : Node → Bool
  | .file _ | .symlink _ => !(isIgnored? files l false).getD ignored
  | .special _ => false
  | .directory entries =>
    let ignored := (isIgnored? files l true).getD ignored
    !ignored && among (w.ignoreFileIn l :: files) ignored entries
where
  /-- Whether there is such a file in one of the entries. -/
  among (files : List IgnoreFile) (ignored : Bool) : List (Name × Node) → Bool
    | [] => false
    | (name, n) :: rest =>
      !isDotGit name && w.holdsFile files ignored (l ++ [name]) n || among files ignored rest

/-! ## Untracked paths -/

/-- Whether a path is tracked, in any stage. -/
def isTracked (w : WorkTree) (path : Bytes) : Bool := w.index.any (·.path = path)

/-- Whether something below a path is tracked. -/
def tracksBelow (w : WorkTree) (path : Bytes) : Bool :=
  w.index.any fun e => (path ++ [slash]).isPrefixOf e.path

/-- Whether a path is tracked as a submodule. -/
def isSubmodule (w : WorkTree) (path : Bytes) : Bool :=
  w.index.any fun e => e.path = path && e.kind = .submodule

/-- The untracked paths in a node at `l` and below it. Ignored directories are entered only if they hold tracked
paths. A directory with a repository of its own is one path, with a slash behind, if it holds a file. -/
def untrackedAt (w : WorkTree) (files : List IgnoreFile) (ignored : Bool) (l : Location) : Node → List Bytes
  | .file _ | .symlink _ =>
    if w.isTracked (Location.path l) || (isIgnored? files l false).getD ignored then [] else [Location.path l]
  | .special _ => []
  | .directory entries =>
    let path := Location.path l
    let ignored := (isIgnored? files l true).getD ignored
    if w.isSubmodule path || ignored && !w.tracksBelow path then []
    else if w.holdsRepository l && !w.tracksBelow path then
      if w.holdsFile files ignored l (.directory entries) then [path ++ [slash]] else []
    else among (w.ignoreFileIn l :: files) ignored entries
where
  /-- The untracked paths in entries. -/
  among (files : List IgnoreFile) (ignored : Bool) : List (Name × Node) → List Bytes
    | [] => []
    | (name, n) :: rest =>
      (if isDotGit name then [] else w.untrackedAt files ignored (l ++ [name]) n) ++ among files ignored rest

/-- The untracked paths of the work tree. `standing` are the rules that hold everywhere. -/
def untracked (w : WorkTree) (standing : List IgnoreFile) : List Bytes :=
  let files := w.ignoreFileIn [] :: standing
  let ignored := (isIgnored? files [] true).getD false
  match w.node? [] with
  | some (.directory entries) =>
    entries.flatMap fun (name, n) => if isDotGit name then [] else w.untrackedAt files ignored [name] n
  | _ => []

/-- The status of the work tree. -/
def status (w : WorkTree) (standing : List IgnoreFile) : List StatusEntry :=
  (w.index.filter w.isDeleted).map (fun e => ⟨e.path, true, false⟩)
    ++ (w.untracked standing).map fun p => ⟨p, false, true⟩

end WorkTree

/-- The rules that hold everywhere in a repository: its own, then those of a file that it is set up with. -/
def Repository.standingRules (fs : FileSystem) (r : Repository) : List IgnoreFile :=
  let own := fileAt? fs (shared fs r.gitDirectory "info/exclude")
  let setUp := ((r.config.get? "core.excludesfile").bind ConfigEntry.value).bind (fileAt? fs)
  [own, setUp].filterMap fun c => c.map (.ofContent [])

end MarkerAudit
