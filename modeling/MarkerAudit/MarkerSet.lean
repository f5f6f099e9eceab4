import MarkerAudit.Pattern
import MarkerAudit.Utf8

/-!
# Marker sets

The markers that a run looks for. Markers are plain text: whatever characters they hold, they match only
themselves.
-/

namespace MarkerAudit

/-- At least one marker, none of them empty. -/
structure MarkerSet where
  markers : List Text
  nonempty : markers ≠ []
  noEmptyMarker : [] ∉ markers

/-- Why texts are no markers. -/
inductive MarkerError
  | missing
  | refused (e : Pattern.Error)
deriving DecidableEq, Repr

namespace MarkerSet

/-- The pattern of any of the markers, as one group. -/
def alternation (markers : List Text) : Text :=
  "(?:".toList ++ Text.joinWith ['|'] (markers.map Pattern.escape) ++ [')']

/-- The markers as a set. Their alternation must be a pattern of accepted size. -/
def ofList? (markers : List Text) : Except MarkerError MarkerSet :=
  if h : markers = [] ∨ [] ∈ markers then .error .missing
  else match Pattern.ofText (alternation markers) with
    | .error e => .error (.refused e)
    | .ok _ => .ok ⟨markers, fun e => h (.inl e), fun e => h (.inr e)⟩

/-- The markers of a run that names none. -/
def standard : MarkerSet where
  markers := ["FIXME:".toList, "TODO:".toList]
  nonempty := by decide
  noEmptyMarker := by decide

/-- Whether a text starts with a marker. -/
def startsAt (ms : MarkerSet) (t : Text) : Bool :=
  ms.markers.any fun m => m.isPrefixOf t

/-- The first position in a line where a marker stands. -/
def find? (ms : MarkerSet) (line : Text) : Option Nat :=
  Text.findIndex? ms.startsAt line

/-- The first position in a line where a marker stands, counted in bytes. -/
def findByte? (ms : MarkerSet) (line : Text) : Option Nat :=
  (ms.find? line).map fun i => Utf8.size (line.take i)

end MarkerSet

/-- The message about refused markers. -/
def MarkerError.message : MarkerError → Text
  | .missing => "keyword markers must not be empty".toList
  | .refused e => "failed to compile keyword markers: ".toList ++ e.message

end MarkerAudit
