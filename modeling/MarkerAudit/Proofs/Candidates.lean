import Mathlib.Control.Monad.Basic
import MarkerAudit.Candidates

/-!
# Where files are listed from

A mode that is left open becomes `git` where a directory holds an entry `.git` or a repository with a work tree is
found from it. Only that entry can lead such a listing to where there is no work tree. Listing every file never fails.
-/

namespace MarkerAudit

open Ascii

variable {fs : FileSystem} {root : Bytes}

/-- The path holds an entry `.git` that leads somewhere. -/
def HoldsDotGit (fs : FileSystem) (root : Bytes) : Prop :=
  ∃ n, fs.node (Path.join root Repository.dotGit) = .ok n

/-- No repository is found from the path. -/
def LacksRepository (fs : FileSystem) (root : Bytes) : Prop :=
  Repository.discover fs root = .error .notFound

/-- The repository that is found from the path has its data at a location and no work tree. -/
def FindsBare (fs : FileSystem) (root : Bytes) (gitDirectory : Location) : Prop :=
  ∃ r, Repository.discover fs root = .ok r ∧ r.workTree = none ∧ r.gitDirectory = gitDirectory

/-- The repository that is found from the path has a work tree. -/
def FindsWorkTree (fs : FileSystem) (root : Bytes) : Prop :=
  ∃ r top, Repository.discover fs root = .ok r ∧ r.workTree = some top

theorem LacksRepository.not_findsWorkTree (h : LacksRepository fs root) : ¬ FindsWorkTree fs root := by
  rintro ⟨r, top, hfound, _⟩
  rw [LacksRepository, hfound] at h
  cases h

theorem FindsBare.not_findsWorkTree {l : Location} (h : FindsBare fs root l) : ¬ FindsWorkTree fs root := by
  obtain ⟨r, hfound, htree, _⟩ := h
  rintro ⟨r', top, hfound', htree'⟩
  cases hfound.symm.trans hfound'
  cases htree.symm.trans htree'

theorem FileSystem.leadsSomewhere_iff {path : Bytes} : fs.leadsSomewhere path = true ↔ ∃ n, fs.node path = .ok n := by
  unfold leadsSomewhere
  cases fs.node path with
  | error e => simp
  | ok n => simp

/-! ## Working sets -/

namespace Repository

/-- A repository is found only from a path that leads somewhere. -/
theorem exists_resolve_of_discover {r : Repository} (h : discover fs root = .ok r) :
    ∃ l, resolve fs root = .ok l := by
  unfold discover at h
  cases hstart : resolve fs root with
  | error e =>
      rw [hstart] at h
      cases h
  | ok l => exact ⟨l, rfl⟩

theorem isWorkTree_iff : isWorkTree fs root = true ↔ HoldsDotGit fs root ∨ FindsWorkTree fs root := by
  rw [isWorkTree, Bool.or_eq_true, FileSystem.leadsSomewhere_iff]
  refine or_congr_right ?_
  cases hfound : discover fs root with
  | error e => simp [FindsWorkTree, hfound]
  | ok r => simp [FindsWorkTree, hfound, Option.isSome_iff_exists]

end Repository

namespace WorkingSet

/-- A working set below a path is there, or its absence is due to what is found from the path. -/
theorem ofPath_cases (fs : FileSystem) (root : Bytes) :
    LacksRepository fs root ∧ ofPath fs root = .error (.notAWorkTree root) ∨
      (∃ l, FindsBare fs root l ∧ ofPath fs root = .error (.bareRepository l)) ∨
      ¬ LacksRepository fs root ∧ (∀ l, ¬ FindsBare fs root l) ∧
        (ofPath fs root = .error .unusableRepository ∨ ∃ ps, ofPath fs root = .ok ps) := by
  cases hfound : Repository.discover fs root with
  | error e =>
      cases e with
      | notFound => exact .inl ⟨hfound, by rw [ofPath, hfound, ofRepository]⟩
      | unusable =>
          refine .inr (.inr ⟨by simp [LacksRepository, hfound], by simp [FindsBare, hfound], .inl ?_⟩)
          rw [ofPath, hfound, ofRepository]
  | ok r =>
      obtain ⟨directory, hdirectory⟩ := Repository.exists_resolve_of_discover hfound
      have hlacks : ¬ LacksRepository fs root := by simp [LacksRepository, hfound]
      cases htree : r.workTree with
      | none =>
          refine .inr (.inl ⟨r.gitDirectory, ⟨r, hfound, htree, rfl⟩, ?_⟩)
          simp only [ofPath, hfound, hdirectory, ofRepository, htree]
      | some top =>
          refine .inr (.inr ⟨hlacks, by simp [FindsBare, hfound, htree], ?_⟩)
          simp only [ofPath, hfound, hdirectory, ofRepository, htree]
          cases tell fs r top with
          | error e => exact .inl rfl
          | ok told => exact .inr ⟨_, rfl⟩

theorem ofPath_eq_notAWorkTree_iff {p : Bytes} :
    ofPath fs root = .error (.notAWorkTree p) ↔ p = root ∧ LacksRepository fs root := by
  rcases ofPath_cases fs root with ⟨hlacks, h⟩ | ⟨l, ⟨r, hfound, _⟩, h⟩ | ⟨hlacks, _, h | ⟨ps, h⟩⟩
  · simp [h, hlacks, eq_comm]
  · simp [h, LacksRepository, hfound]
  · simp [h, hlacks]
  · simp [h, hlacks]

theorem ofPath_eq_bareRepository_iff {l : Location} :
    ofPath fs root = .error (.bareRepository l) ↔ FindsBare fs root l := by
  rcases ofPath_cases fs root with ⟨hlacks, h⟩ | ⟨l', hbare, h⟩ | ⟨_, hbare, h | ⟨ps, h⟩⟩
  · rw [LacksRepository] at hlacks
    simp [h, FindsBare, hlacks]
  · obtain ⟨r, hfound, htree, rfl⟩ := hbare
    simp [h, FindsBare, hfound, htree]
  · simp [h, hbare l]
  · simp [h, hbare l]

end WorkingSet

/-! ## Modes -/

namespace FileSystem

/-- A mode that is left open is one of the others: `git` where an entry `.git` or a work tree is there, and `find`
elsewhere. -/
theorem resolve_auto_cases (fs : FileSystem) (root : Bytes) :
    (HoldsDotGit fs root ∨ FindsWorkTree fs root) ∧ SearchMode.resolve fs root .auto = .git ∧
        fs.candidates .auto root = WorkingSet.ofPath fs root ∨
      ¬ (HoldsDotGit fs root ∨ FindsWorkTree fs root) ∧ SearchMode.resolve fs root .auto = .find ∧
        fs.candidates .auto root = .ok (fs.listFiles root) := by
  rw [← Repository.isWorkTree_iff]
  by_cases htree : Repository.isWorkTree fs root = true
  · simp [candidates, SearchMode.resolve, htree]
  · simp [candidates, SearchMode.resolve, htree]

/-- A mode that is left open becomes `git` just where an entry `.git` or a work tree is there, and every file is listed
elsewhere. It lacks a work tree just where the entry is there and listing a working set lacks one, so never without the
entry. Listing every file never fails. -/
theorem candidates_auto_lacks_workTree_iff (fs : FileSystem) (root : Bytes) :
    (SearchMode.resolve fs root .auto = .git ↔ HoldsDotGit fs root ∨ FindsWorkTree fs root) ∧
      (HoldsDotGit fs root ∨ FindsWorkTree fs root → fs.candidates .auto root = fs.candidates .git root) ∧
      (¬ (HoldsDotGit fs root ∨ FindsWorkTree fs root) → fs.candidates .auto root = .ok (fs.listFiles root)) ∧
      (∀ p, fs.candidates .auto root = .error (.notAWorkTree p) ↔
        HoldsDotGit fs root ∧ LacksRepository fs root ∧ p = root) ∧
      (∀ l, fs.candidates .auto root = .error (.bareRepository l) ↔ HoldsDotGit fs root ∧ FindsBare fs root l) ∧
      ∀ e, fs.candidates .find root ≠ .error e := by
  have hfind : ∀ e, fs.candidates .find root ≠ .error e := by
    intro e h
    cases h
  rcases resolve_auto_cases fs root with ⟨htree, hmode, hlisted⟩ | ⟨htree, hmode, hlisted⟩
  · have hgit : fs.candidates .auto root = fs.candidates .git root := hlisted
    refine ⟨iff_of_true hmode htree, fun _ => hgit, fun h => absurd htree h, ?_, ?_, hfind⟩
    · intro p
      rw [hlisted, WorkingSet.ofPath_eq_notAWorkTree_iff, and_comm (a := p = root)]
      refine (and_iff_right_of_imp ?_).symm
      rintro ⟨hlacks, _⟩
      exact htree.resolve_right hlacks.not_findsWorkTree
    · intro l
      rw [hlisted, WorkingSet.ofPath_eq_bareRepository_iff]
      exact (and_iff_right_of_imp fun hbare => htree.resolve_right hbare.not_findsWorkTree).symm
  · obtain ⟨hdotGit, _⟩ := not_or.mp htree
    refine ⟨iff_of_false (by simp [hmode]) htree, fun h => absurd h htree, fun _ => hlisted, ?_, ?_, hfind⟩
    · simp [hlisted, hdotGit]
    · simp [hlisted, hdotGit]

/-- A directory with a file beside an empty directory `.git`. -/
def besideEmptyDotGit : FileSystem :=
  ⟨.directory [([0x74], .directory [(Repository.dotGit, .directory []), ([0x61], .file [])])], [[0x74]]⟩

/-- A directory whose entry `.git` is a repository that is set up without a work tree. -/
def besideBareDotGit : FileSystem :=
  ⟨.directory [([0x74], .directory [(Repository.dotGit, .directory
    [(Utf8.encode "HEAD".toList, .file []), (Utf8.encode "config".toList, .file (Utf8.encode "[core]\nbare\n".toList)),
      (Utf8.encode "objects".toList, .directory []), (Utf8.encode "refs".toList, .directory [])])])], [[0x74]]⟩

/-- Beside an entry `.git` that is no repository, or a bare one, a mode that is left open fails for the lack of a work
tree, although there is a file to list. -/
theorem candidates_auto_fails_beside_dotGit :
    besideEmptyDotGit.candidates .auto [period] = .error (.notAWorkTree [period]) ∧
      besideEmptyDotGit.listFiles [period] = [['a']] ∧
      besideBareDotGit.candidates .auto [period] = .error (.bareRepository [[0x74], Repository.dotGit]) := by
  decide +kernel

end FileSystem
end MarkerAudit
