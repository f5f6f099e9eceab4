import MarkerAudit.Proofs.NormalPath
import MarkerAudit.Proofs.WorkingSet

/-!
# Listed paths where nothing is

What is new in a work tree is there. What is tracked but gone is taken out of the working set if an entry for it is
settled and watched, so that a listed path with nothing there has only sides of a merge in the index, or entries that
are assumed to be unchanged.
-/

namespace MarkerAudit

open Ascii

variable {n : Node} {l : Location} {path : Bytes}

/-! ## What is at a path -/

namespace Path

/-- The names that a path holds between slashes. -/
def names (path : Bytes) : Location := (segments slash path).filter (· ≠ [])

theorem names_append_slash (path : Bytes) : names (path ++ [slash]) = names path := by
  have hsegs : segments slash (path ++ [slash]) = segments slash path ++ [[]] := segments_append_sep path []
  rw [names, hsegs, List.filter_append, names]
  exact List.append_nil _

/-- The path of a location holds its names. -/
theorem names_path (hl : ∀ name ∈ l, IsName name) : names l.path = l := by
  by_cases hl0 : l = []
  · rw [hl0]
    rfl
  · rw [names, Location.path_eq_intercalate, segments_eq_splitOn,
      List.splitOn_intercalate slash (fun name hm => (hl name hm).no_slash) hl0, List.filter_eq_self]
    intro name hm
    simpa using (hl name hm).ne_nil

end Path

/-- The path is that of a location, with or without a slash at its end. -/
def Location.HasPath (l : Location) (path : Bytes) : Prop := path = l.path ∨ path = l.path ++ [slash]

theorem Location.HasPath.names_eq (h : l.HasPath path) (hl : ∀ name ∈ l, IsName name) : Path.names path = l := by
  rcases h with rfl | rfl
  · exact Path.names_path hl
  · rw [Path.names_append_slash, Path.names_path hl]

/-- Whether anything is at a path below a directory: a file, a directory, a symlink or something else. No symlink is
followed. -/
def FileSystem.holdsBelow (fs : FileSystem) (top : Location) (path : Bytes) : Bool :=
  (fs.root.get? (top ++ Path.names path)).isSome

namespace WorkTree

variable {w : WorkTree} {files : List IgnoreFile} {ignored : Bool} {entries : List (Name × Node)} {e : IndexEntry}

theorem node?_eq_get? (w : WorkTree) (l : Location) : w.node? l = w.fileSystem.root.get? (w.top ++ l) :=
  (Node.get?_append w.fileSystem.root w.top l).symm

theorem isName_of_node? (hwell : w.fileSystem.root.WellFormed) (h : w.node? l = some n) : ∀ name ∈ l, IsName name := by
  rw [node?_eq_get?] at h
  exact fun name hm => hwell.isName h name (List.mem_append_right _ hm)

/-- What is at a location is there by every path of the location. -/
theorem holdsBelow_of_node? (hwell : w.fileSystem.root.WellFormed) (h : w.node? l = some n) (hpath : l.HasPath path) :
    w.fileSystem.holdsBelow w.top path = true := by
  rw [FileSystem.holdsBelow, hpath.names_eq (isName_of_node? hwell h), ← node?_eq_get?, h]
  rfl

/-- An entry that is in its place has something at its path. -/
theorem holdsBelow_of_isInPlace (hwell : w.fileSystem.root.WellFormed) (h : w.isInPlace e = true) :
    w.fileSystem.holdsBelow w.top e.path = true := by
  have hpath : Location.path (segments slash e.path) = e.path := by
    rw [Location.path_eq_intercalate, segments_eq_splitOn, List.intercalate_splitOn]
  cases hnode : w.node? (segments slash e.path) with
  | none => simp [isInPlace, hnode] at h
  | some n => exact holdsBelow_of_node? hwell hnode (.inl hpath.symm)

/-- Where nothing is, an entry is reported as deleted unless it is a side of a merge or assumed to be unchanged. -/
theorem isDeleted_eq_false_iff_of_absent (hwell : w.fileSystem.root.WellFormed)
    (h : w.fileSystem.holdsBelow w.top e.path = false) :
    w.isDeleted e = false ↔ e.stage ≠ 0 ∨ e.assumeUnchanged = true := by
  have hgone : w.isInPlace e = false := by
    rw [← Bool.not_eq_true]
    intro hplace
    exact Bool.false_ne_true (h.symm.trans (holdsBelow_of_isInPlace hwell hplace))
  simp [isDeleted, hgone, imp_iff_not_or]

/-! ## Untracked paths -/

theorem mem_among (h : path ∈ untrackedAt.among w l files ignored entries) :
    ∃ e ∈ entries, path ∈ w.untrackedAt files ignored (l ++ [e.1]) e.2 := by
  induction entries with
  | nil => simp [untrackedAt.among] at h
  | cons e entries ih =>
      obtain ⟨name, n⟩ := e
      rw [untrackedAt.among, List.mem_append] at h
      rcases h with h | h
      · split at h
        · cases h
        · exact ⟨_, List.mem_cons_self, h⟩
      · obtain ⟨e, he, hpath⟩ := ih h
        exact ⟨e, List.mem_cons_of_mem _ he, hpath⟩

/-- An untracked path is that of something at a node or below it. -/
theorem exists_hasPath_of_mem_untrackedAt {n : Node} {l : Location} {files : List IgnoreFile} {ignored : Bool}
    (hn : n.WellFormed) (h : path ∈ w.untrackedAt files ignored l n) :
    ∃ m c, n.get? m = some c ∧ Location.HasPath (l ++ m) path := by
  have hhere : l.HasPath path → ∃ m c, n.get? m = some c ∧ Location.HasPath (l ++ m) path := by
    intro hpath
    exact ⟨[], n, rfl, by rwa [List.append_nil]⟩
  cases n with
  | file | symlink =>
      rw [untrackedAt] at h
      split at h
      · cases h
      · exact hhere (.inl (List.mem_singleton.mp h))
  | special =>
      rw [untrackedAt] at h
      cases h
  | directory entries =>
      simp only [untrackedAt] at h
      -- a directory is passed over, or is a path itself as it holds a repository, or its entries are gone through
      split at h
      · cases h
      · split at h
        · split at h
          · exact hhere (.inr (List.mem_singleton.mp h))
          · cases h
        · obtain ⟨e, he, hpath⟩ := mem_among h
          have hchild := Node.child?_of_mem_entries hn.nodup he
          have hlt := Node.sizeOf_lt_of_mem_entries he
          obtain ⟨m, c, hget, hm⟩ := exists_hasPath_of_mem_untrackedAt (hn.child hchild) hpath
          rw [List.append_assoc, List.singleton_append] at hm
          refine ⟨e.1 :: m, c, ?_, hm⟩
          rw [Node.get?_cons, hchild]
          exact hget
termination_by sizeOf n

/-- What is untracked is there. -/
theorem holdsBelow_of_mem_untracked {standing : List IgnoreFile} (hwell : w.fileSystem.root.WellFormed)
    (h : path ∈ w.untracked standing) : w.fileSystem.holdsBelow w.top path = true := by
  simp only [untracked] at h
  cases htop : w.node? [] with
  | none => simp [htop] at h
  | some n =>
      cases n with
      | directory entries =>
          simp only [htop, List.mem_flatMap] at h
          obtain ⟨⟨name, n⟩, he, hpath⟩ := h
          split at hpath
          · cases hpath
          · have hroot := htop
            rw [node?_eq_get?, List.append_nil] at hroot
            have hn : (Node.directory entries).WellFormed := hwell.of_get? hroot
            have hchild := Node.child?_of_mem_entries hn.nodup he
            obtain ⟨m, c, hget, hm⟩ := exists_hasPath_of_mem_untrackedAt (hn.child hchild) hpath
            have hnode : w.node? ([name] ++ m) = some c := by
              rw [node?_eq_get?, Node.get?_append, hroot]
              simpa [Node.get?_cons, hchild] using hget
            exact holdsBelow_of_node? hwell hnode hm
      | _ => simp [htop] at h

end WorkTree

/-! ## Working sets -/

namespace WorkingSet

variable {fs : FileSystem} {root : Bytes} {r : Repository} {top directory : Location} {index : Index}
  {files : List Text} {w : WorkTree} {p : Text}

/-- Deleted entries take their paths away. -/
theorem mem_foldl_update_deleted (es : List IndexEntry) :
    p ∈ (es.map fun e => ⟨e.path, true, false⟩).foldl update files ↔
      p ∈ files ∧ ∀ e ∈ es, e.path ≠ Utf8.encode p := by
  induction es generalizing files with
  | nil => simp
  | cons e es ih =>
      rw [List.map_cons, List.foldl_cons, ih, List.forall_mem_cons, ← and_assoc]
      refine and_congr_left fun _ => ?_
      by_cases hpath : e.path = Utf8.encode p
      · simp [mem_update_of_path, hpath]
      · simp [mem_update_of_ne, hpath]

/-- New paths come in. -/
theorem mem_foldl_update_new (paths : List Bytes) :
    p ∈ (paths.map fun path => ⟨path, false, true⟩).foldl update files ↔ p ∈ files ∨ Utf8.encode p ∈ paths := by
  induction paths generalizing files with
  | nil => simp
  | cons path paths ih =>
      rw [List.map_cons, List.foldl_cons, ih, List.mem_cons, ← or_assoc]
      refine or_congr_left ?_
      by_cases hpath : path = Utf8.encode p
      · simp [mem_update_of_path, hpath]
      · simp [mem_update_of_ne, hpath, Ne.symm hpath]

/-- A working set holds what is tracked and not deleted, and what is untracked. -/
theorem mem_paths_status {standing : List IgnoreFile} :
    p ∈ paths w.index.paths (w.status standing) ↔
      ((∃ e ∈ w.index, e.path = Utf8.encode p) ∧ ∀ e ∈ w.index, e.path = Utf8.encode p → w.isDeleted e = false) ∨
        Utf8.encode p ∈ w.untracked standing := by
  have htracked : p ∈ w.index.paths.filterMap Utf8.decode? ↔ ∃ e ∈ w.index, e.path = Utf8.encode p := by
    simp only [Index.paths, List.mem_filterMap, Utf8.decode?_eq_some_iff, exists_eq_right, List.mem_map]
  have hdeleted : (∀ e ∈ w.index.filter w.isDeleted, e.path ≠ Utf8.encode p) ↔
      ∀ e ∈ w.index, e.path = Utf8.encode p → w.isDeleted e = false := by
    simp only [List.mem_filter, and_imp, ← Bool.not_eq_true]
    exact forall₂_congr fun e _ => imp_not_comm
  rw [paths, WorkTree.status, List.foldl_append, mem_foldl_update_new, mem_foldl_update_deleted, htracked, hdeleted]

theorem ofPath_eq_list (hfound : Repository.discover fs root = .ok r) (htop : r.workTree = some top)
    (hdirectory : Repository.resolve fs root = .ok directory) (hindex : Repository.readIndex fs r = .ok index)
    (hhead : r.hasHead fs = true) :
    ofPath fs root =
      .ok (list (scope top directory) index.paths (WorkTree.status ⟨fs, top, index⟩ (r.standingRules fs))) := by
  have htell : tell fs r top = .ok (index, WorkTree.status ⟨fs, top, index⟩ (r.standingRules fs)) := by
    simp [tell, hindex, hhead]
  simp only [ofPath, hfound, hdirectory, ofRepository, htop, htell]

/-- Where nothing is at a path of the work tree, the path is listed just when it is tracked and each of its entries in
the index is a side of a merge or assumed to be unchanged. If the index has no such entries, everything that is listed
is there. -/
theorem mem_ofPath_absent_iff (hwell : fs.root.WellFormed) (hfound : Repository.discover fs root = .ok r)
    (htop : r.workTree = some top) (hdirectory : Repository.resolve fs root = .ok directory)
    (hindex : Repository.readIndex fs r = .ok index) (hhead : r.hasHead fs = true) :
    ∃ ps, ofPath fs root = .ok ps ∧
      (∀ p path, path = Utf8.encode (scope top directory ++ p) → fs.holdsBelow top path = false →
        (p ∈ ps ↔ (∃ e ∈ index, e.path = path) ∧
          ∀ e ∈ index, e.path = path → e.stage ≠ 0 ∨ e.assumeUnchanged = true)) ∧
      ((∀ e ∈ index, e.stage = 0 ∧ e.assumeUnchanged = false) →
        ∀ p ∈ ps, fs.holdsBelow top (Utf8.encode (scope top directory ++ p)) = true) := by
  have habsent : ∀ p path, path = Utf8.encode (scope top directory ++ p) → fs.holdsBelow top path = false →
      (p ∈ list (scope top directory) index.paths (WorkTree.status ⟨fs, top, index⟩ (r.standingRules fs)) ↔
        (∃ e ∈ index, e.path = path) ∧
          ∀ e ∈ index, e.path = path → e.stage ≠ 0 ∨ e.assumeUnchanged = true) := by
    rintro p _ rfl hgone
    have hnew : Utf8.encode (scope top directory ++ p) ∉ WorkTree.untracked ⟨fs, top, index⟩ (r.standingRules fs) := by
      intro hmem
      have hthere := WorkTree.holdsBelow_of_mem_untracked (w := ⟨fs, top, index⟩) hwell hmem
      exact Bool.false_ne_true (hgone.symm.trans hthere)
    rw [mem_list, mem_paths_status (w := ⟨fs, top, index⟩), or_iff_left hnew]
    refine and_congr_right fun _ => forall₂_congr fun e _ => forall_congr' fun hpath => ?_
    exact WorkTree.isDeleted_eq_false_iff_of_absent (w := ⟨fs, top, index⟩) hwell (hpath ▸ hgone)
  refine ⟨_, ofPath_eq_list hfound htop hdirectory hindex hhead, habsent, ?_⟩
  intro hsettled p hp
  rw [← Bool.not_eq_false]
  intro hgone
  obtain ⟨⟨e, he, hpath⟩, hall⟩ := (habsent p _ rfl hgone).mp hp
  obtain ⟨hstage, hwatched⟩ := hsettled e he
  rcases hall e he hpath with hside | hassumed
  · exact hside hstage
  · exact Bool.false_ne_true (hwatched.symm.trans hassumed)

/-- An index with a settled path, one side of a merge, and a path that is assumed to be unchanged. -/
def leftIndex : Index :=
  [{ path := [0x61] }, { path := [0x62], stage := 2 }, { path := [0x63], assumeUnchanged := true }]

/-- A work tree with that index, in which nothing is left. The index file has no digest. -/
def emptied : FileSystem :=
  ⟨.directory [([0x74], .directory [(Repository.dotGit, .directory
    [(Utf8.encode "HEAD".toList, .file (Utf8.encode "ref: m".toList)), (Utf8.encode "objects".toList, .directory []),
      (Utf8.encode "refs".toList, .directory []), (Utf8.encode "index".toList, .file
        (Index.signature ++ bigEndian 4 2 ++ bigEndian 4 3 ++ leftIndex.flatMap Index.encodeEntry ++
          List.replicate Sha1.size 0))])])], [[0x74]]⟩

/-- The repository of that work tree. -/
def emptiedRepository : Repository := ⟨[[0x74], Repository.dotGit], [], some [[0x74]]⟩

/-- What is found from the work tree, and that no tracked path has anything there. -/
theorem emptied_found : Repository.discover emptied [period] = .ok emptiedRepository ∧
    Repository.resolve emptied [period] = .ok [[0x74]] ∧
    Repository.readIndex emptied emptiedRepository = .ok leftIndex ∧ emptiedRepository.hasHead emptied = true ∧
    (∀ e ∈ leftIndex, emptied.holdsBelow [[0x74]] e.path = false) ∧ IsName Repository.dotGit := by
  decide +kernel

theorem emptied_wellFormed : emptied.root.WellFormed := by
  obtain ⟨_, _, _, _, _, hdotGit⟩ := emptied_found
  have hempty : (Node.directory []).WellFormed := Node.wellFormed_directory List.nodup_nil (List.forall_mem_nil _)
  refine Node.wellFormed_directory (by decide) (List.forall_mem_singleton.mpr ⟨by decide, ?_⟩)
  refine Node.wellFormed_directory (List.nodup_singleton _) (List.forall_mem_singleton.mpr ⟨hdotGit, ?_⟩)
  refine Node.wellFormed_directory (by decide) ?_
  simp only [List.forall_mem_cons]
  exact ⟨⟨by decide, Node.wellFormed_of_not_isDirectory rfl⟩, ⟨by decide, hempty⟩, ⟨by decide, hempty⟩,
    ⟨by decide, Node.wellFormed_of_not_isDirectory rfl⟩, List.forall_mem_nil _⟩

/-- The settled path is left out, and the side of a merge is listed, although nothing is at either path. -/
theorem mem_ofPath_absent_iff_emptied : ∃ ps, ofPath emptied [period] = .ok ps ∧ ['a'] ∉ ps ∧ ['b'] ∈ ps := by
  obtain ⟨hfound, hdirectory, hindex, hhead, hgone, _⟩ := emptied_found
  obtain ⟨ps, hps, hmem, _⟩ := mem_ofPath_absent_iff emptied_wellFormed hfound rfl hdirectory hindex hhead
  refine ⟨ps, hps, ?_, ?_⟩
  · intro ha
    exact absurd ((hmem ['a'] [0x61] rfl (hgone { path := [0x61] } (by decide))).mp ha) (by decide)
  · exact (hmem ['b'] [0x62] rfl (hgone { path := [0x62], stage := 2 } (by decide))).mpr (by decide)

/-- Where nothing is left, the side of a merge is listed and the path that is assumed to be unchanged is. -/
theorem ofPath_lists_absent :
    ∃ ps, ofPath emptied [period] = .ok ps ∧ (['b'] ∈ ps ∧ emptied.holdsBelow [[0x74]] [0x62] = false) ∧
      ['c'] ∈ ps ∧ emptied.holdsBelow [[0x74]] [0x63] = false := by
  obtain ⟨hfound, hdirectory, hindex, hhead, hgone, _⟩ := emptied_found
  have hmem := @mem_paths_status ⟨emptied, [[0x74]], leftIndex⟩
  refine ⟨_, ofPath_eq_list hfound rfl hdirectory hindex hhead, ⟨mem_list.mpr ?_, ?_⟩, mem_list.mpr ?_, ?_⟩
  · exact hmem.mpr (.inl (by decide))
  · exact hgone { path := [0x62], stage := 2 } (by decide)
  · exact hmem.mpr (.inl (by decide))
  · exact hgone { path := [0x63], assumeUnchanged := true } (by decide)

end WorkingSet
end MarkerAudit
