import MarkerAudit.Proofs.Utf8
import MarkerAudit.WorkingSet

/-!
# What a working set holds

Going through the status takes away what is deleted and brings in what is new. A path that has at most one entry there
is in the working set just when it is tracked or new and is not deleted, and the scope cuts the same text off all paths,
so that they stay in order.
-/

namespace MarkerAudit

open Ascii

namespace WorkingSet

variable {files : List Text} {status : List StatusEntry} {tracked : List Bytes} {e : StatusEntry} {p prefixed : Text}

/-! ## Going through the status -/

theorem mem_update_of_path (h : e.path = Utf8.encode p) :
    p ∈ update files e ↔ (p ∈ files ∨ e.isNew = true) ∧ e.isDeleted = false := by
  rw [update, Utf8.decode?_eq_some_iff.mpr h]
  cases e.isDeleted with
  | true => simp
  | false =>
      cases e.isNew with
      | true => simp
      | false => simp

theorem mem_update_of_ne (h : e.path ≠ Utf8.encode p) : p ∈ update files e ↔ p ∈ files := by
  unfold update
  split
  · rfl
  · rename_i other hother
    have hne : p ≠ other := by
      rintro rfl
      exact h (Utf8.decode?_eq_some_iff.mp hother)
    split
    · simp [hne]
    · split
      · simp [hne]
      · rfl

/-- Behind a status with at most one entry for each path are the paths from before and the new ones, without the
deleted ones. -/
theorem mem_foldl_update (honce : (status.map StatusEntry.path).Nodup) :
    p ∈ status.foldl update files ↔
      (p ∈ files ∨ ∃ e ∈ status, e.path = Utf8.encode p ∧ e.isNew = true) ∧
        ∀ e ∈ status, e.path = Utf8.encode p → e.isDeleted = false := by
  -- on the status, for whatever has been collected: only the entry for `p` moves it
  induction status generalizing files with
  | nil => simp
  | cons e status ih =>
      obtain ⟨hfirst, honce⟩ := List.nodup_cons.mp honce
      rw [List.foldl_cons, ih honce]
      simp only [List.mem_cons, exists_eq_or_imp, forall_eq_or_imp]
      by_cases hpath : e.path = Utf8.encode p
      · have hlater : ∀ e' ∈ status, e'.path ≠ Utf8.encode p := by
          intro e' he' heq
          exact hfirst (List.mem_map.mpr ⟨e', he', heq.trans hpath.symm⟩)
        have hnew : ¬ ∃ e' ∈ status, e'.path = Utf8.encode p ∧ e'.isNew = true := by
          rintro ⟨e', he', heq, _⟩
          exact hlater e' he' heq
        simp only [mem_update_of_path hpath, hpath, hnew, true_and, or_false, true_imp_iff]
        exact and_assoc
      · simp only [mem_update_of_ne hpath, hpath, false_and, false_or, false_imp_iff, true_and]

theorem mem_paths (honce : (status.map StatusEntry.path).Nodup) :
    p ∈ paths tracked status ↔
      (Utf8.encode p ∈ tracked ∨ ∃ e ∈ status, e.path = Utf8.encode p ∧ e.isNew = true) ∧
        ∀ e ∈ status, e.path = Utf8.encode p → e.isDeleted = false := by
  have htracked : p ∈ tracked.filterMap Utf8.decode? ↔ Utf8.encode p ∈ tracked := by
    simp only [List.mem_filterMap, Utf8.decode?_eq_some_iff, exists_eq_right]
  rw [paths, mem_foldl_update honce, htracked]

/-! ## Cutting the scope off -/

theorem mem_list {scope : Text} : p ∈ list scope tracked status ↔ scope ++ p ∈ paths tracked status := by
  simp only [list, List.mem_filterMap, dropPrefix?_eq_some_iff, Text.mem_sortedSet, exists_eq_right]

/-- A working set is strictly ascending by bytes, so that no path is in it twice. -/
theorem pairwise_list (scope : Text) (tracked : List Bytes) (status : List StatusEntry) :
    (list scope tracked status).Pairwise Utf8.BytesBefore := by
  refine List.Pairwise.filterMap _ ?_ (Text.pairwise_sortedSet (paths tracked status))
  intro s t hst p hp q hq
  rw [dropPrefix?_eq_some_iff.mp hp, dropPrefix?_eq_some_iff.mp hq, List.map_append, List.map_append] at hst
  exact Utf8.bytesBefore_of_lex ((lex_append_left_iff _).mp hst)

theorem scope_append (top names : Location) :
    scope top (top ++ names) = names.flatMap fun n => Utf8.decode n ++ ['/'] := by
  rw [scope, dropPrefix?_eq_some_iff.mpr rfl]

/-- The scope of a directory whose names are UTF-8 holds the bytes of the names, each with a slash behind it. -/
theorem encode_scope {top names : Location} (h : ∀ name ∈ names, ∃ t, Utf8.encode t = name) :
    Utf8.encode (scope top (top ++ names)) = names.flatMap (· ++ [slash]) := by
  rw [scope_append]
  induction names with
  | nil => rfl
  | cons name names ih =>
      obtain ⟨⟨t, rfl⟩, hnames⟩ := List.forall_mem_cons.mp h
      rw [List.flatMap_cons, Utf8.encode_append, ih hnames, Utf8.decode_encode, Utf8.encode_append, List.flatMap_cons]
      rfl

/-! ## Working sets of repositories -/

/-- The path from the top of a work tree to what is at `p` below a directory there. -/
def fromTop (names : Location) (p : Text) : Bytes := names.flatMap (· ++ [slash]) ++ Utf8.encode p

/-- The working set below a directory of a work tree is there as soon as the index and the status are. Whatever they
say, as long as no path has two entries in the status, it is strictly ascending and holds a path just when that is
tracked in some stage or new, and not deleted. -/
theorem ofRepository_eq_tracked_or_new {root : Bytes} {r : Repository} {top names : Location}
    {told : Repository → Location → Except RepositoryError (Index × List StatusEntry)} {index : Index}
    (htop : r.workTree = some top) (hnames : ∀ name ∈ names, ∃ t, Utf8.encode t = name)
    (htold : told r top = .ok (index, status)) (honce : (status.map StatusEntry.path).Nodup) :
    ∃ ps, ofRepository root (.ok r) (.ok (top ++ names)) told = .ok ps ∧
      (∀ fs, Repository.discover fs root = .ok r → Repository.resolve fs root = .ok (top ++ names) →
        tell fs r top = .ok (index, status) → ofPath fs root = .ok ps) ∧
      ps.Pairwise Utf8.BytesBefore ∧
      ∀ p, p ∈ ps ↔
        ((∃ e ∈ index, e.path = fromTop names p) ∨ ∃ e ∈ status, e.path = fromTop names p ∧ e.isNew = true) ∧
          ∀ e ∈ status, e.path = fromTop names p → e.isDeleted = false := by
  have hlisted : ∀ tell', tell' r top = .ok (index, status) →
      ofRepository root (.ok r) (.ok (top ++ names)) tell' =
        .ok (list (scope top (top ++ names)) index.paths status) := by
    intro tell' htell
    simp only [ofRepository, htop, htell]
  refine ⟨_, hlisted told htold, ?_, pairwise_list _ _ _, ?_⟩
  · intro fs hfound hdirectory htell
    rw [ofPath, hfound, hdirectory, hlisted _ htell]
  · intro p
    have hfrom : Utf8.encode (scope top (top ++ names) ++ p) = fromTop names p := by
      rw [Utf8.encode_append, encode_scope hnames, fromTop]
    rw [mem_list, mem_paths honce, hfrom, Index.paths, List.mem_map]

/-- An index with two sides of a merge for the first path below `s`. -/
def mergeIndex : Index :=
  [{ path := [0x73, slash, 0x61], stage := 1 }, { path := [0x73, slash, 0x61], stage := 2 },
    { path := [0x73, slash, 0x62] }, { path := [0x74] }]

/-- A status in which the second path below `s` is deleted and a third one is new. -/
def mergeStatus : List StatusEntry :=
  [{ path := [0x73, slash, 0x61] }, { path := [0x73, slash, 0x62], isDeleted := true },
    { path := [0x73, slash, 0x63], isNew := true }]

/-- Below a directory a path with two sides of a merge is listed and a new one is. A deleted path is not, and one
beside the directory is not. -/
theorem ofRepository_eq_tracked_or_new_merge :
    ∃ ps, ofRepository [period] (.ok ⟨[Repository.dotGit], [], some []⟩) (.ok [[0x73]])
        (fun _ _ => .ok (mergeIndex, mergeStatus)) = .ok ps ∧
      ps.Pairwise Utf8.BytesBefore ∧ ['a'] ∈ ps ∧ ['b'] ∉ ps ∧ ['c'] ∈ ps ∧ ['t'] ∉ ps := by
  have hnames : ∀ name ∈ ([[0x73]] : Location), ∃ t, Utf8.encode t = name :=
    List.forall_mem_singleton.mpr ⟨['s'], rfl⟩
  obtain ⟨ps, hps, _, hsorted, hmem⟩ := @ofRepository_eq_tracked_or_new mergeStatus [period]
    ⟨[Repository.dotGit], [], some []⟩ [] [[0x73]] (fun _ _ => .ok (mergeIndex, mergeStatus)) mergeIndex rfl hnames rfl
    (by decide)
  refine ⟨ps, hps, hsorted, (hmem _).mpr (by decide), ?_, (hmem _).mpr (by decide), ?_⟩
  · intro hb
    exact absurd ((hmem _).mp hb) (by decide)
  · intro ht
    exact absurd ((hmem _).mp ht) (by decide)

end WorkingSet
end MarkerAudit
