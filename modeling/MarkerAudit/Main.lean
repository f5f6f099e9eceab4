import MarkerAudit.Ascii
import MarkerAudit.Program

/-!
# Command line

Reads the file tree that the program is started in, runs the program on it as a value, and writes what comes out.
If a directory above holds an entry `.git`, the tree is read from there on.
-/

namespace MarkerAudit.CommandLine

open Ascii

/-- The environment variable with the filter of diagnostics. -/
def filterVariable : String := "RUST_LOG"

/-- The target of a symlink that leads nowhere: a name that nothing can have. -/
def nowhere : Bytes := [slash, 0]

/-- The bytes of a text. -/
def bytesOf (s : String) : Bytes := s.toUTF8.toList

/-- Reads what an entry of a directory stands for. A symlink is kept as the path it leads to in the end. Entries that
keep no contents are not told apart, and what cannot be read is taken for one. -/
partial def readEntry (e : IO.FS.DirEntry) : IO (Name × Node) := do
  let node ← try
      match (← e.path.symlinkMetadata).type with
      | .dir => pure (Node.directory (← (← e.path.readDir).toList.mapM readEntry))
      | .file => pure (Node.file (← IO.FS.readBinFile e.path).toList)
      | .symlink =>
        try pure (Node.symlink (bytesOf (← IO.FS.realPath e.path).toString))
        catch _ => pure (Node.symlink nowhere)
      | .other => pure (Node.special .device)
    catch _ => pure (Node.special .device)
  return (bytesOf e.fileName, node)

/-- The text of an absolute path. -/
def pathText (l : Location) : String :=
  String.ofList (Utf8.decode (FileSystem.absolutePath l))

/-- Whether a directory holds an entry `.git`. -/
def holdsDotGit (l : Location) : IO Bool := do
  let entries ← try (← IO.FS.realPath (pathText l)).readDir catch _ => pure #[]
  return entries.any fun e => bytesOf e.fileName = Repository.dotGit

/-- Reads the file system as far as a run from the current directory may look at it. -/
def readFileSystem : IO FileSystem := do
  let here := bytesOf (← IO.currentDir).toString
  let current := (segments slash here).filter (· ≠ [])
  let above := (List.range current.length).map fun n => current.take (n + 1)
  let top := ((← above.filterM holdsDotGit).head?).getD current
  let entries ← (← (← IO.FS.realPath (pathText top)).readDir).toList.mapM readEntry
  let root := (Node.directory []).set (some (.directory entries)) top
  return { root := if top.isEmpty then .directory entries else root, current }

/-- Writes what goes to the error output. -/
def tell (n : Note) : IO Unit :=
  match n with
  | .step s => IO.eprintln (String.ofList s.render)
  | .message t => IO.eprint (String.ofList t)

/-- Runs the program with arguments. -/
def run (args : List String) : IO UInt32 := do
  let outcome := Start.run {
    name := bytesOf (← IO.appPath).toString
    args := args.map bytesOf
    filter := (← IO.getEnv filterVariable).map bytesOf
    fileSystem := ← readFileSystem }
  IO.print (String.ofList outcome.output)
  outcome.notes.forM tell
  return outcome.code.toUInt32

end MarkerAudit.CommandLine

/-- Runs the program with the arguments of the command line. -/
def main (args : List String) : IO UInt32 := MarkerAudit.CommandLine.run args
