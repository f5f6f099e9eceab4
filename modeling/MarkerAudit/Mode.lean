import MarkerAudit.Text

/-!
# Modes

How findings are written, and how candidate files are listed, each with the words that name them.
-/

namespace MarkerAudit

/-- How findings are written, and whether they fail the run. -/
inductive ReportFormat
  | plain
  | warn
deriving DecidableEq, Repr

/-- How candidate files are listed: what a repository holds, every file, or whichever fits the place. -/
inductive SearchMode
  | git
  | find
  | auto
deriving DecidableEq, Repr

/-- The word for a format. -/
def ReportFormat.word : ReportFormat → Text
  | .plain => "none".toList
  | .warn => "warn".toList

/-- All formats. -/
def ReportFormat.all : List ReportFormat := [.plain, .warn]

/-- The format with a word. -/
def ReportFormat.ofWord? (w : Text) : Option ReportFormat :=
  all.find? fun f => f.word = w

/-- The word for a search mode. -/
def SearchMode.word : SearchMode → Text
  | .git => "git".toList
  | .find => "find".toList
  | .auto => "default".toList

/-- All search modes. -/
def SearchMode.all : List SearchMode := [.git, .find, .auto]

/-- The search mode with a word. -/
def SearchMode.ofWord? (w : Text) : Option SearchMode :=
  all.find? fun m => m.word = w

end MarkerAudit
