import MarkerAudit.Ascii
import MarkerAudit.Audit
import MarkerAudit.Options.Usage

/-!
# The program

What a start of the program does, from its arguments to its exit status.
-/

namespace MarkerAudit

open Ascii

/-- What goes to the error output: a step on a line of its own, or a text as it is. -/
inductive Note
  | step (s : Step)
  | message (t : Text)
deriving DecidableEq, Repr

/-- What a start of the program leaves. It comes to an end only if each of the files that `waits` lists, which are
pipes, is opened to be written. -/
structure Outcome where
  code : Nat
  output : Text := []
  notes : List Note := []
  waits : List Text := []
deriving Repr

/-- How the program is started: the name it is called by, its arguments, the text that filters its diagnostics,
if there is one, and the file system. The current directory is what it looks at. -/
structure Start where
  name : Bytes
  args : List Bytes
  filter : Option Bytes
  fileSystem : FileSystem

namespace Start

/-- The filter of diagnostics. Without a text, or with one that is not well-formed, more is told if the options
ask for it. -/
def levels (s : Start) (verbose : Bool) : LevelFilter :=
  ((s.filter.bind Utf8.decode?).bind LevelFilter.ofText?).getD (.uniform (if verbose then .debug else .warn))

/-- The directory that the program looks at. -/
def root : Bytes := [period]

/-- An error as it is told. -/
def complaint (t : Text) : Note := .message ("error: ".toList ++ t ++ ['\n'])

/-- What is left if options give no settings: a complaint. An assertion that does not hold is no fault of the options,
and breaks the run off instead. -/
def refusal : SettingsError → Outcome
  | .pattern (.own e) => { code := Verdict.crashCode, notes := [.message ((FilterError.own e).message ++ ['\n'])] }
  | e => { code := Verdict.fatalCode, notes := [complaint ("Invalid configuration: ".toList ++ e.fullMessage)] }

/-- Runs with options. -/
def runWith (s : Start) (o : Options) : Outcome :=
  let told := fun (steps : List Step) => (steps.filter (Step.isTold (s.levels o.verbose))).map Note.step
  let name := invokedName s.name
  match Settings.ofOptions o root name with
  | .error e => refusal e
  | .ok settings =>
    let audited := s.fileSystem.audit settings {}
    let output := audited.sink.held
    let notes := told (.settingsMade settings.markers.markers name :: audited.steps)
    let waits := audited.waits
    match audited.result with
    | .error e => { code := Verdict.fatalCode, output, notes := notes ++ [complaint e.message], waits }
    | .ok verdict => { code := verdict.code, output, notes, waits }

/-- Runs the program. -/
def run (s : Start) : Outcome :=
  match Options.ofArgs s.args with
  | .error stop =>
    let message := stop.message (usageName s.name)
    if stop.isError then { code := stop.code, notes := [.message message] }
    else { code := stop.code, output := message }
  | .ok o => s.runWith o

end Start
end MarkerAudit
