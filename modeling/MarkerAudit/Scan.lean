import MarkerAudit.Ascii
import MarkerAudit.Finding
import MarkerAudit.MarkerSet

/-!
# Scanning contents

A file is scanned line by line. Lines end at a line feed, and one carriage return before it, or at the end
of the file, belongs to the line end. A file with a zero byte near its start is taken for binary and skipped.
-/

namespace MarkerAudit.Scan

open Ascii

/-- How many bytes are looked at to tell whether a file is binary. -/
def sniffLength : Nat := 8192

/-- Whether the contents are taken for binary. -/
def isBinary (content : Bytes) : Bool :=
  (content.take sniffLength).contains 0

/-- The line without a carriage return at its end. -/
def dropCarriageReturn (line : Bytes) : Bytes :=
  if line.getLast? = some carriageReturn then line.dropLast else line

/-- The lines of a file. What follows the last line feed is a line unless it is empty. -/
def lines (content : Bytes) : List Bytes :=
  let segs := segments lineFeed content
  let ended := if segs.getLast? = some [] then segs.dropLast else segs
  ended.map dropCarriageReturn

/-- What is found on a line with its number. -/
def finding? (ms : MarkerSet) (path : Text) (line : Bytes) (number : Nat) : Option Finding :=
  let text := Utf8.decode line
  (ms.find? text).map fun i => ⟨path, number, text.drop i⟩

/-- What is found in the contents of a file, line by line. -/
def contents (ms : MarkerSet) (path : Text) (content : Bytes) : List Finding :=
  if isBinary content then []
  else ((lines content).zipIdx 1).filterMap fun (line, number) => finding? ms path line number

end MarkerAudit.Scan
