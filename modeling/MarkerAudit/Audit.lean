import MarkerAudit.Candidates
import MarkerAudit.Diagnostics
import MarkerAudit.Report
import MarkerAudit.Settings

/-!
# Audits

A run with its settings: candidate files are listed, filtered and scanned, and what is found is reported.
-/

namespace MarkerAudit

/-- Why an audit is not completed. -/
inductive AuditError
  | formatter (e : Pattern.Error)
  | listing (e : ListingError)
  | report (e : SinkError)
deriving DecidableEq, Repr

/-- The message about an audit that is not completed. -/
def AuditError.message : AuditError → Text
  | .formatter e => "Failed to compile warning pattern: ".toList ++ e.message
  | .listing e => "Failed to list files: ".toList ++ e.message
  | .report e => e.message

/-- What an audit leaves: the sink that was written to, the steps that were taken, and the verdict. It gets there only
if each of the files that `waits` lists, which are pipes, is opened to be written. -/
structure Audited where
  sink : Sink
  steps : List Step
  result : Except AuditError Verdict
  waits : List Text

namespace FileSystem

/-- The steps that files are skipped by, in the order of the files. -/
def skips (fs : FileSystem) (root : Bytes) (paths : List Text) : List Step :=
  paths.filterMap fun p =>
    match fs.node (Path.join root (Utf8.encode p)) with
    | .error e => some (.unreadableSkipped p e)
    | .ok (.special .socket) => some (.unreadableSkipped p .noDevice)
    | .ok (.file content) => if Scan.isBinary content then some (.binarySkipped p) else none
    | .ok _ => none

/-- Audits the files that settings ask for, and reports to a sink. -/
def audit (fs : FileSystem) (s : Settings) (sink : Sink) : Audited :=
  match Formatter.ofMarkers? s.format s.markers with
  | .error e => ⟨sink, [], .error (.formatter e), []⟩
  | .ok formatter =>
    let chosen := Step.modeChosen s.mode (s.mode.resolve fs s.root)
    match fs.candidates s.mode s.root with
    | .error e => ⟨sink, [chosen], .error (.listing e), []⟩
    | .ok candidates =>
      let paths := s.filter.apply candidates
      let found := fs.scanFiles s.root paths s.markers
      let steps := [chosen, .candidatesListed candidates.length, .candidatesKept paths.length]
        ++ fs.skips s.root paths ++ [.scanned paths.length found.length]
      let waits := paths.filter (fs.waitsAt s.root)
      match sink.writeReport formatter.format found with
      | (sink, .error e) => ⟨sink, steps, .error (.report e), waits⟩
      | (sink, .ok written) => ⟨sink, steps, .ok (.decide (0 < written) formatter.format), waits⟩

end FileSystem
end MarkerAudit
