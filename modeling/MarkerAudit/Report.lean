import MarkerAudit.Finding
import MarkerAudit.MarkerSet
import MarkerAudit.Verdict
import MarkerAudit.Unicode.Derived

/-!
# Reports

Findings are written one a line, plain or as warnings. A line that is already written can be turned into a
warning too; there the marker is searched for in the text.
-/

namespace MarkerAudit

/-- The word put before the marker of a warning. -/
def warningWord : Text := "warning: ".toList

/-- The finding as a line of a report. -/
def ReportFormat.render (fmt : ReportFormat) (f : Finding) : Text :=
  match fmt with
  | .plain => f.display
  | .warn => f.path ++ ':' :: Text.ofNat f.line ++ ':' :: warningWord ++ f.fragment

/-! ## Written lines -/

/-- How findings are written, for the markers that written lines are searched for. -/
structure Formatter where
  format : ReportFormat
  markers : MarkerSet

namespace Formatter

/-- The pattern of a written line: anything, a number between colons, at most one blank, and a marker. -/
def linePattern (ms : MarkerSet) : Text :=
  "^(?P<head>.*?:\\d+:)\\s?(?P<tail>".toList ++ MarkerSet.alternation ms.markers ++ ".*)$".toList

/-- The formatter for a format and markers, in either format only if the pattern of a line is accepted. -/
def ofMarkers? (fmt : ReportFormat) (ms : MarkerSet) : Except Pattern.Error Formatter :=
  match Pattern.ofText (linePattern ms) with
  | .error e => .error e
  | .ok _ => .ok ⟨fmt, ms⟩

/-- Whether a text is a marker followed by no line end. -/
def isTail (ms : MarkerSet) (t : Text) : Bool :=
  ms.markers.any fun m =>
    match dropPrefix? t m with
    | some rest => !rest.contains '\n'
    | none => false

/-- The tail that follows the number of a line: behind one blank if that leaves a tail, or else at once. -/
def tail? (ms : MarkerSet) (t : Text) : Option Text :=
  match t with
  | c :: rest =>
    if Unicode.Property.whiteSpace.contains c && isTail ms rest then some rest
    else if isTail ms t then some t
    else none
  | [] => none

/-- Splits a text that starts with a colon, digits and a colon in front of a tail. -/
def splitNumber? (ms : MarkerSet) (t : Text) : Option (Text × Text) :=
  match t with
  | ':' :: rest =>
    let digits := rest.takeWhile Unicode.Category.decimalNumber.contains
    match digits, rest.drop digits.length with
    | _ :: _, ':' :: behind => (tail? ms behind).map fun tail => (':' :: digits ++ [':'], tail)
    | _, _ => none
  | _ => none

/-- Splits a line after the first number in front of a tail; `passed` holds what has been passed, last first,
and no line end is passed. -/
def splitLine? (ms : MarkerSet) (passed : Text) : Text → Option (Text × Text)
  | [] => none
  | c :: rest =>
    match splitNumber? ms (c :: rest) with
    | some (number, tail) => some (passed.reverse ++ number, tail)
    | none => if c = '\n' then none else splitLine? ms (c :: passed) rest

/-- A written line as the format wants it. A line without a marker behind a number stays as it is. -/
def formatLine (f : Formatter) (line : Text) : Text :=
  match f.format with
  | .plain => line
  | .warn =>
    match splitLine? f.markers [] line with
    | some (head, tail) => head ++ warningWord ++ tail
    | none => line

end Formatter

/-! ## Writing -/

/-- Why a sink refuses. -/
inductive SinkError
  | limitReached
  | flushRefused
deriving DecidableEq, Repr

/-- Where a report goes: what has been written, how many bytes at most are accepted, if there is a limit,
and whether flushing fails. -/
structure Sink where
  held : Text := []
  used : Nat := 0
  limit : Option Nat := none
  flushFails : Bool := false
deriving Repr

namespace Sink

/-- Writes a text, all of it or nothing. -/
def write (s : Sink) (t : Text) : Except SinkError Sink :=
  let used := s.used + Utf8.size t
  if s.limit.any (· < used) then .error .limitReached
  else .ok { s with held := s.held ++ t, used }

/-- Writes findings, each followed by a line end in a write of its own. The sink is returned as it is when
the writing ends. -/
def writeAll (s : Sink) (fmt : ReportFormat) : List Finding → Sink × Option SinkError
  | [] => (s, none)
  | f :: rest =>
    match s.write (fmt.render f) with
    | .error e => (s, some e)
    | .ok s =>
      match s.write ['\n'] with
      | .error e => (s, some e)
      | .ok s => writeAll s fmt rest

/-- Writes a report and flushes. The answer is the number of findings, if the sink accepted everything. -/
def writeReport (s : Sink) (fmt : ReportFormat) (fs : List Finding) : Sink × Except SinkError Nat :=
  match s.writeAll fmt fs with
  | (s, some e) => (s, .error e)
  | (s, none) => (s, if s.flushFails then .error .flushRefused else .ok fs.length)

end Sink

/-- The message about a sink that refuses. -/
def SinkError.message (e : SinkError) : Text :=
  "Failed to write report: ".toList ++ match e with
    | .limitReached => "write limit reached".toList
    | .flushRefused => "flush refused".toList

end MarkerAudit
