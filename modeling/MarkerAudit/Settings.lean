import MarkerAudit.Options
import MarkerAudit.MarkerSet
import MarkerAudit.PathFilter

/-!
# Settings

Everything that a run needs, checked before any file is listed.
-/

namespace MarkerAudit

/-- The settings of a run below the directory `root`. -/
structure Settings where
  root : Bytes
  mode : SearchMode
  format : ReportFormat
  markers : MarkerSet
  filter : PathFilter

/-- Why options give no settings. -/
inductive SettingsError
  | markers (e : MarkerError)
  | pattern (e : FilterError)
deriving DecidableEq, Repr

/-- The message about options that give no settings. -/
def SettingsError.message : SettingsError → Text
  | .markers e => e.message
  | .pattern e => e.message

/-- The message followed by that of its cause: the fault of a pattern is told again. -/
def SettingsError.fullMessage : SettingsError → Text
  | .markers .missing => MarkerError.missing.message
  | .markers (.refused e) => (MarkerError.refused e).message ++ ": ".toList ++ e.message
  | .pattern (.asked e) => e.message ++ ": ".toList ++ e.cause.message
  | .pattern (.own e) => (FilterError.own e).message

namespace Settings

/-- The markers that keywords give: the standard ones if there are no keywords. -/
def markersOf (keywords : List Text) : Except MarkerError MarkerSet :=
  if keywords.isEmpty then .ok .standard else MarkerSet.ofList? keywords

/-- The settings that options give to a tool called `name`. Markers are checked first, then excludes, then
includes. -/
def ofOptions (o : Options) (root : Bytes) (name : Text) : Except SettingsError Settings :=
  match markersOf o.keywords with
  | .error e => .error (.markers e)
  | .ok markers =>
    match PathFilter.ofLists? name o.includes o.excludes with
    | .error e => .error (.pattern e)
    | .ok filter => .ok { root, mode := o.mode, format := o.format, markers, filter }

end Settings
end MarkerAudit
