import MarkerAudit.Ascii
import MarkerAudit.FileTree.Path
import MarkerAudit.Repository.Config
import MarkerAudit.Repository.Index

/-!
# Finding a repository

A repository is looked for in a directory and then in those above it. In each, an entry `.git` comes first, a
directory or a file that tells where one is, and then the directory itself.
-/

namespace MarkerAudit

open Ascii

/-- A repository: the directory that keeps its data, and the directory whose files it tracks, unless it is
bare. -/
structure Repository where
  gitDirectory : Location
  config : Config
  workTree : Option Location
deriving DecidableEq, Repr

/-- Why there is no repository to work with. -/
inductive RepositoryError
  | notFound
  | unusable
deriving DecidableEq, Repr

namespace Repository

/-- The name of the entry that makes a directory a work tree. -/
def dotGit : Name := ".git".toUTF8.toList

/-- The text in front of the path in a file that stands for a repository's directory. -/
def linkPrefix : Bytes := "gitdir:".toUTF8.toList

/-- The last version of a repository's format that is known. -/
def maxFormat : Int := 1

/-- The extensions of a repository's format that are known. -/
def knownExtensions : List String := ["extensions.noop", "extensions.objectformat"]

variable (fs : FileSystem)

/-- The absolute path of a name in a directory. -/
def below (l : Location) (name : String) : Bytes :=
  FileSystem.absolutePath (l ++ segments slash name.toUTF8.toList)

/-- The content of the file that a path leads to. -/
def fileAt? (path : Bytes) : Option Bytes :=
  match fs.node path with
  | .ok (.file content) => some content
  | _ => none

/-- Whether a path leads to a directory. -/
def isDirectoryAt (path : Bytes) : Bool :=
  match fs.node path with
  | .ok n => n.isDirectory
  | .error _ => false

/-- The path that a file in a repository's directory holds, seen from there, if there is such a file. -/
def pathIn? (l : Location) (name : String) : Option Bytes :=
  (fileAt? fs (below l name)).map fun content =>
    Path.join (FileSystem.absolutePath l) (Config.dropBlanksAtEnd content)

/-- The path of a name in the directory that a repository shares with its linked work trees, which is its own unless
it names another. -/
def shared (l : Location) (name : String) : Bytes :=
  Path.join ((pathIn? fs l "commondir").getD (FileSystem.absolutePath l)) name.toUTF8.toList

/-- Whether a directory has the parts that a repository's directory must have, those that are shared included. -/
def isGitDirectory (l : Location) : Bool :=
  (fileAt? fs (below l "HEAD")).isSome && isDirectoryAt fs (shared fs l "objects")
    && isDirectoryAt fs (shared fs l "refs")

/-- The location that a path leads to. A path that leads nowhere because something is missing is not found. -/
def resolve (path : Bytes) : Except RepositoryError Location :=
  match fs.locate true path with
  | .ok l => .ok l
  | .error .notFound | .error .notDirectory => .error .notFound
  | .error _ => .error .unusable

/-! ## Looking for a repository -/

/-- The location that a file which stands for a repository's directory names, seen from `base`. -/
def followLink (base : Location) (content : Bytes) : Except RepositoryError Location :=
  let t := Config.dropBlanksAtEnd content
  match dropPrefix? t linkPrefix with
  | none | some [] => .error .unusable
  | some target =>
    resolve fs (Path.join (FileSystem.absolutePath base) (target.dropWhile Config.isBlank))

/-- What is found at a location: a repository's directory, or that there is none and the search ends, or nothing
that ends the search. -/
def at? (l : Location) : Except RepositoryError (Option Location) :=
  match fs.locate true (FileSystem.absolutePath l) with
  | .error _ => .ok none
  | .ok target =>
    match fs.root.get? target with
    | some (.directory _) => .ok (if isGitDirectory fs target then some l else none)
    | some (.file content) =>
      if l.getLast? = some dotGit then
        match followLink fs l.dropLast content with
        | .error e => .error e
        | .ok t => if isGitDirectory fs t then .ok (some t) else .error .notFound
      else .ok none
    | _ => .ok none

/-- Looks for a repository's directory in a directory and above it; `reversed` is its location, last name
first. -/
def search : (reversed : List Name) → Except RepositoryError Location
  | [] => .error .notFound
  | name :: above =>
    let l := (name :: above).reverse
    match at? fs (l ++ [dotGit]) with
    | .error e => .error e
    | .ok (some found) => .ok found
    | .ok none =>
      match at? fs l with
      | .error e => .error e
      | .ok (some found) => .ok found
      | .ok none => search above

/-! ## Opening a repository -/

/-- The configuration of a repository. One that is missing is empty. -/
def readConfig (gitDirectory : Location) : Except RepositoryError Config :=
  match fileAt? fs (shared fs gitDirectory "config") with
  | none => .ok []
  | some content =>
    match Config.ofFile? content with
    | some c => .ok c
    | none => .error .unusable

/-- Whether a configuration is of a format that is known. -/
def isKnownFormat (c : Config) : Bool :=
  match c.get? "core.repositoryformatversion" with
  | none => true
  | some e =>
    match e.value.bind Config.integer? with
    | none => false
    | some version =>
      version ≤ maxFormat && (version < 1 || c.all fun e =>
        !("extensions.".toUTF8.toList).isPrefixOf e.name
          || knownExtensions.any (·.toUTF8.toList = e.name))

/-- The work tree that a configuration sets, or else the directory that holds the repository's. -/
def workTreeOf (gitDirectory : Location) (c : Config) : Except RepositoryError Location :=
  match (c.get? "core.worktree").bind ConfigEntry.value with
  | none => .ok gitDirectory.dropLast
  | some path => resolve fs (Path.join (FileSystem.absolutePath gitDirectory ++ [slash]) path)

/-- The work tree with the entry `.git` at a path: the directory that holds it. -/
def linkedWorkTree (path : Bytes) : Except RepositoryError Location :=
  let above := ((path.reverse.dropWhile (· = slash)).dropWhile (· ≠ slash)).reverse
  match fs.locate true above with
  | .ok l => .ok l
  | .error _ => .error .unusable

/-- Opens the repository with a directory. That of a linked work tree names the work tree, which then counts whatever
the configuration says. -/
def openAt (gitDirectory : Location) : Except RepositoryError Repository :=
  match readConfig fs gitDirectory with
  | .error e => .error e
  | .ok config =>
    let withTree := fun l => { gitDirectory, config, workTree := some l }
    if !isKnownFormat config then .error .unusable
    else match (config.get? "core.bare").map Config.bool?, pathIn? fs gitDirectory "gitdir" with
      | some none, _ => .error .unusable
      | _, some link => (linkedWorkTree fs link).map withTree
      | some (some true), none => .ok { gitDirectory, config, workTree := none }
      | _, none => (workTreeOf fs gitDirectory config).map withTree

/-- The repository that is found from a path. -/
def discover (path : Bytes) : Except RepositoryError Repository :=
  match resolve fs path with
  | .error e => .error e
  | .ok start =>
    match search fs start.reverse with
    | .error e => .error e
    | .ok found =>
      match resolve fs (FileSystem.absolutePath found) with
      | .error e => .error e
      | .ok gitDirectory => openAt fs gitDirectory

/-- Whether a path is in a work tree: it holds an entry `.git`, or a repository that is not bare is found from
there. -/
def isWorkTree (path : Bytes) : Bool :=
  fs.leadsSomewhere (Path.join path dotGit) ||
    match discover fs path with
    | .ok r => r.workTree.isSome
    | .error _ => false

/-! ## Reading a repository -/

variable (r : Repository)

/-- The index. One that is missing is empty. -/
def readIndex : Except RepositoryError Index :=
  let path := below r.gitDirectory "index"
  if !fs.leadsSomewhere path then .ok []
  else match (fileAt? fs path).bind Index.decode? with
    | some ix => .ok ix
    | none => .error .unusable

/-- Whether `HEAD` names something: a reference, or an object by forty digits. -/
def hasHead : Bool :=
  match fileAt? fs (below r.gitDirectory "HEAD") with
  | none => false
  | some content =>
    let isDigit := fun (b : UInt8) => 48 ≤ b && b ≤ 57 || 97 ≤ b && b ≤ 102 || 65 ≤ b && b ≤ 70
    match dropPrefix? content "ref: ".toUTF8.toList with
    | some target => !(Config.dropBlanksAtEnd target).isEmpty
    | none =>
      (content.take 40).length = 40 && (content.take 40).all isDigit
        && ((content.drop 40).head?.map Config.isBlank).getD true

end Repository
end MarkerAudit
