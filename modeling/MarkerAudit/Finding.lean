import MarkerAudit.Text

/-!
# Findings

A marker found on a line of a file.
-/

namespace MarkerAudit

/-- A line that holds a marker: the file's path, the number of the line from one, and the line from its
first marker on. -/
structure Finding where
  path : Text
  line : Nat
  fragment : Text
deriving DecidableEq, Repr

/-- The finding with colons between its parts. -/
def Finding.display (f : Finding) : Text :=
  f.path ++ ':' :: Text.ofNat f.line ++ ':' :: f.fragment

end MarkerAudit
