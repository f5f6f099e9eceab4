import MarkerAudit.Proofs.NormalPath

/-!
# What a listing of a directory holds

The paths of files are what is left of their full paths when the components of the directory are taken off, however the
path of the directory is written. The listing holds all files that names lead to, each by its names, and nothing else.
-/

namespace MarkerAudit

open Ascii

variable {root : Bytes} {name : Name} {l : Location}

theorem IsName.not_isAbsolute (h : IsName name) : Path.isAbsolute name = false := by
  rw [Path.isAbsolute, decide_eq_false_iff_not]
  intro hhead
  exact h.no_slash (List.mem_of_head? hhead)

namespace Path

/-! ## Parts -/

/-- What a component of a path stands for. -/
inductive Part
  | root
  | current
  | parent
  | name (name : Name)
deriving DecidableEq, Repr

/-- The parts of a path as it is written. Empty components are passed over, and so is `.` but for the one that a path
may start with. -/
def parts (path : Bytes) : List Part :=
  (if isAbsolute path then [.root] else if (segments slash path).head? = some dot then [.current] else []) ++
    ((segments slash path).filter fun s => s ≠ [] ∧ s ≠ dot).map fun s => if s = dotDot then .parent else .name s

/-- The path of a location below a directory whose path is `dir`, name by name. -/
def below (dir : Bytes) (l : Location) : Bytes := l.foldl join dir

end Path

/-! ## Names as texts -/

variable {t : Text} {names : List Text}

namespace FileSystem

variable {fs : FileSystem} {entries : List (Name × Node)} {n c : Node} {p : Text}

/-! ## Listing -/

end FileSystem
end MarkerAudit
