import MarkerAudit.Proofs.Candidates
import MarkerAudit.Proofs.FileTree
import MarkerAudit.Proofs.WorkingSet

/-!
# Working sets of directories

What is worked on below a directory of a work tree is what is worked on in the work tree as far as its path starts with
that of the directory and a slash, which is cut off.
-/

namespace MarkerAudit

open Ascii

namespace WorkingSet

variable {fs : FileSystem} {status : List StatusEntry} {tracked : List Bytes} {whole root : Bytes}
  {top names : Location} {r : Repository}
  {told : Repository → Location → Except RepositoryError (Index × List StatusEntry)}

/-- The working set below a path, where `told` tells the index and the status of the repository that is found. -/
def toldBelow (fs : FileSystem)
    (told : Repository → Location → Except RepositoryError (Index × List StatusEntry)) (path : Bytes) :
    Except ListingError (List Text) :=
  ofRepository path (Repository.discover fs path) (Repository.resolve fs path) told

theorem ofPath_eq_toldBelow : ofPath fs = toldBelow fs (tell fs) := rfl

/-- What decides the working set below a path: where it leads, the repository with its work tree, and what is told of
it. -/
structure Told (fs : FileSystem) (told : Repository → Location → Except RepositoryError (Index × List StatusEntry))
    (path : Bytes) where
  repository : Repository
  top : Location
  directory : Location
  index : Index
  status : List StatusEntry
  resolved : Repository.resolve fs path = .ok directory
  discovered : Repository.discover fs path = .ok repository
  hasWorkTree : repository.workTree = some top
  answered : told repository top = .ok (index, status)

instance : Subsingleton (Told fs told root) := by
  refine ⟨?_⟩
  rintro ⟨r, top, directory, index, status, hroot, hfound, htop, htold⟩ ⟨_, _, _, _, _, hroot', hfound', htop', htold'⟩
  cases hroot.symm.trans hroot'
  cases hfound.symm.trans hfound'
  cases htop.symm.trans htop'
  cases htold.symm.trans htold'
  rfl

theorem Told.toldBelow (t : Told fs told root) :
    toldBelow fs told root = .ok (list (scope t.top t.directory) t.index.paths t.status) := by
  simp only [WorkingSet.toldBelow, t.resolved, t.discovered, ofRepository, t.hasWorkTree, t.answered]

/-- A working set comes from what is told of the repository that is found. -/
theorem exists_told_of_toldBelow {ps : List Text} (h : toldBelow fs told root = .ok ps) :
    ∃ t : Told fs told root, ps = list (scope t.top t.directory) t.index.paths t.status := by
  unfold toldBelow at h
  cases hfound : Repository.discover fs root with
  | error e => cases e <;> simp [hfound, ofRepository] at h
  | ok r =>
      obtain ⟨directory, hroot⟩ := Repository.exists_resolve_of_discover hfound
      cases htop : r.workTree with
      | none => simp [hfound, hroot, ofRepository, htop] at h
      | some top =>
          cases htold : told r top with
          | error e => simp [hfound, hroot, ofRepository, htop, htold] at h
          | ok reported =>
              simp only [hfound, hroot, ofRepository, htop, htold] at h
              exact ⟨⟨r, top, directory, reported.1, reported.2, hroot, hfound, htop, htold⟩, (Except.ok.inj h).symm⟩

/-- The path of a directory with a slash behind it is what its scope cuts off. -/
theorem scope_eq_relativePath (hne : names ≠ []) : scope top (top ++ names) = relativePath names ++ ['/'] := by
  have hbehind : ∀ (t : Text) (ns : Location),
      t ++ ['/'] ++ ns.flatMap (fun n => Utf8.decode n ++ ['/']) =
        t ++ (ns.map Utf8.decode).flatMap (['/'] ++ ·) ++ ['/'] := by
    intro t ns
    induction ns generalizing t with
    | nil => simp
    | cons n ns ih => simpa using ih (t ++ ['/'] ++ Utf8.decode n)
  cases names with
  | nil => exact absurd rfl hne
  | cons name names =>
      rw [scope_append, List.flatMap_cons, relativePath, List.map_cons, Text.joinWith]
      exact hbehind _ names

theorem scope_self (top : Location) : scope top top = [] := by
  have h := scope_append top []
  rwa [List.append_nil] at h

/-- A work tree with a directory, another whose name starts with the name of that one, and a symlink to the former. -/
def neighbourEntries : List (Name × Node) :=
  [(Repository.dotGit, .directory [(Utf8.encode "HEAD".toList, .file (Utf8.encode "ref: m".toList)),
      (Utf8.encode "objects".toList, .directory []), (Utf8.encode "refs".toList, .directory [])]),
    ([0x73], .directory [([0x61], .file (Utf8.encode "TODO: x\n".toList))]),
    ([0x73, 0x32], .directory [([0x62], .file [])]), ([0x6C], .symlink [0x73])]

def neighbours : FileSystem := ⟨.directory [([0x74], .directory neighbourEntries)], [[0x74]]⟩

/-- What is told of that work tree: nothing is tracked. -/
def neighboursTold : Told neighbours (tell neighbours) [period] where
  repository := ⟨[[0x74], Repository.dotGit], [], some [[0x74]]⟩
  top := [[0x74]]
  directory := [[0x74]]
  index := []
  status := [{ path := [0x73, slash, 0x61], isNew := true }, { path := [0x73, 0x32, slash, 0x62], isNew := true },
    { path := [0x6C], isNew := true }]
  resolved := by decide +kernel
  discovered := by decide +kernel
  hasWorkTree := rfl
  answered := by decide +kernel

end WorkingSet
end MarkerAudit
