import MarkerAudit.Ascii
import MarkerAudit.FileTree.Edit
import MarkerAudit.Repository.Discovery

/-!
# Changing a repository

Making a repository, setting it up, and putting paths into its index or taking them out.
-/

namespace MarkerAudit

open Ascii

/-- Why a repository is left as it is. -/
inductive StagingError
  | noRepository
  | noFile
  | noPlace
deriving DecidableEq, Repr

namespace Repository

/-- The configuration of a new repository. -/
def newConfig (bare : Bool) : String :=
  "[core]\n\trepositoryformatversion = 0\n\tfilemode = true\n\tbare = "
    ++ (if bare then "true\n" else "false\n\tlogallrefupdates = true\n")

/-- What the directory of a new repository holds. -/
def newDirectory (bare : Bool) : Node :=
  .directory [
    entry "HEAD" (file "ref: refs/heads/master\n"),
    entry "config" (file (newConfig bare)),
    entry "description" (file "Unnamed repository; edit this file 'description' to name the repository.\n"),
    entry "branches" (.directory []),
    entry "hooks" (.directory []),
    entry "info" (.directory [
      entry "exclude" (file "# Patterns of files that are ignored here but not by others.\n")]),
    entry "objects" (.directory [entry "info" (.directory []), entry "pack" (.directory [])]),
    entry "refs" (.directory [entry "heads" (.directory []), entry "tags" (.directory [])])]
where
  /-- An entry with a name. -/
  entry (name : String) (n : Node) : Name × Node := (name.toUTF8.toList, n)
  /-- A file with a text. -/
  file (text : String) : Node := .file text.toUTF8.toList

/-- A change of the file system as a change of a repository. -/
def placed {α : Type} : Except PathError α → Except StagingError α
  | .ok a => .ok a
  | .error _ => .error .noPlace

/-- Makes a repository in a directory. What is there already stays. -/
def create (fs : FileSystem) (path : Bytes) (bare : Bool) : Except StagingError FileSystem := do
  let (fs, l) ← placed (fs.makeDirectory (if bare then path else Path.join path dotGit))
  let n := (fs.root.get? l).getD (.directory [])
  return fs.set l (some (n.fill (newDirectory bare)))

/-- The directory of the repository that a path holds or is. -/
def gitDirectoryAt (fs : FileSystem) (path : Bytes) : Except StagingError Location :=
  match [Path.join path dotGit, path].findSome? fun p =>
    match resolve fs p with
    | .ok l => if isGitDirectory fs l then some l else none
    | .error _ => none with
  | some l => .ok l
  | none => .error .noRepository

/-- Sets a value in the configuration of the repository at a path. -/
def configure (fs : FileSystem) (path name value : Bytes) : Except StagingError FileSystem := do
  let l ← gitDirectoryAt fs path
  let content := (fileAt? fs (below l "config")).getD []
  placed (fs.writeFile (below l "config") (content ++ Config.renderEntry name value))

/-- Changes the index of the repository at a path. -/
def changeIndex (fs : FileSystem) (path : Bytes) (change : Index → Except StagingError Index) :
    Except StagingError FileSystem := do
  let l ← gitDirectoryAt fs path
  let ix ← match fileAt? fs (below l "index") with
    | none => pure []
    | some file =>
      match Index.decode? file with
      | some ix => pure ix
      | none => .error .noRepository
  let ix ← change ix
  placed (fs.writeFile (below l "index") ix.encode)

/-- Puts entries into the index of the repository at a path, whatever its work tree holds. -/
def record (fs : FileSystem) (path : Bytes) (es : List IndexEntry) : Except StagingError FileSystem :=
  changeIndex fs path fun ix => .ok (es.foldl Index.insert ix)

/-- A path as an index keeps it, without components that mean the directory itself. -/
def indexPath (path : Bytes) : Bytes :=
  Location.path ((segments slash path).filter fun c => c ≠ [] && c ≠ Path.dot)

/-- Puts files of the work tree into the index of the repository at a path. -/
def stage (fs : FileSystem) (path : Bytes) (files : List Bytes) : Except StagingError FileSystem :=
  changeIndex fs path fun ix =>
    files.foldlM (fun ix file =>
      match (fs.locate false (Path.join path file)).toOption.bind fs.root.get? with
      | some (.file _) => .ok (Index.insert ix { path := indexPath file })
      | some (.symlink _) => .ok (Index.insert ix { path := indexPath file, kind := .symlink })
      | _ => .error .noFile) ix

/-- Takes paths out of the index of the repository at a path. The work tree stays as it is. -/
def unstage (fs : FileSystem) (path : Bytes) (files : List Bytes) : Except StagingError FileSystem :=
  changeIndex fs path fun ix =>
    files.foldlM (fun ix file =>
      if ix.any (·.path = indexPath file) then .ok (Index.erase ix (indexPath file)) else .error .noFile) ix

end Repository
end MarkerAudit
