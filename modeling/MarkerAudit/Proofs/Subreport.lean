import MarkerAudit.Proofs.NormalPath
import MarkerAudit.Proofs.Scope
import MarkerAudit.Proofs.Undecodable

/-!
# Working sets among all files

What an audit of a working set finds by paths without symlinks is found in the same order by an audit of all files. Only
the paths matter: a file that both list is read alike.
-/

namespace MarkerAudit

open Ascii

namespace WorkingSet

variable {files : List Text} {tracked : List Bytes} {status : List StatusEntry} {top directory : Location} {p : Text}

/-- Going through the status brings in nothing but its own paths. -/
theorem mem_or_exists_of_mem_foldl_update (h : p ∈ status.foldl update files) :
    p ∈ files ∨ ∃ e ∈ status, e.path = Utf8.encode p := by
  induction status generalizing files with
  | nil => exact .inl h
  | cons e status ih =>
      rcases ih h with hfiles | ⟨e', he', hpath⟩
      · by_cases hpath : e.path = Utf8.encode p
        · exact .inr ⟨e, List.mem_cons_self, hpath⟩
        · exact .inl ((mem_update_of_ne hpath).mp hfiles)
      · exact .inr ⟨e', List.mem_cons_of_mem _ he', hpath⟩

/-- A scope is empty or ends with a slash. -/
theorem scope_eq_nil_or_concat (top directory : Location) :
    scope top directory = [] ∨ ∃ t, scope top directory = t ++ ['/'] := by
  cases hnames : dropPrefix? directory top with
  | none =>
      rw [scope, hnames]
      exact .inl rfl
  | some names =>
      rw [dropPrefix?_eq_some_iff.mp hnames]
      by_cases hne : names = []
      · rw [hne, List.append_nil, scope_self]
        exact .inl rfl
      · exact .inr ⟨_, scope_eq_relativePath hne⟩

/-- Normal paths are normal seen from a directory of the work tree. -/
theorem isNormal_of_mem_list (htracked : ∀ path ∈ tracked, Path.IsNormal path)
    (hstatus : ∀ e ∈ status, Path.IsNormal e.path) (h : p ∈ list (scope top directory) tracked status) :
    Path.IsNormal (Utf8.encode p) := by
  have hfull : Path.IsNormal (Utf8.encode (scope top directory ++ p)) := by
    rcases mem_or_exists_of_mem_foldl_update (mem_list.mp h) with hfiles | ⟨e, he, hpath⟩
    · obtain ⟨path, hpath, hdecode⟩ := List.mem_filterMap.mp hfiles
      rw [← Utf8.decode?_eq_some_iff.mp hdecode]
      exact htracked path hpath
    · rw [← hpath]
      exact hstatus e he
  rcases scope_eq_nil_or_concat top directory with hscope | ⟨t, hscope⟩
  · rwa [hscope, List.nil_append] at hfull
  · rw [hscope, List.append_assoc, Utf8.encode_append, List.singleton_append, Utf8.encode_cons] at hfull
    exact Path.IsNormal.of_append hfull

end WorkingSet

/-! ## Findings -/

namespace FileSystem

variable {fs : FileSystem} {entries : List (Name × Node)} {root : Bytes} {p : Text} {paths listed : List Text}
  {ms : MarkerSet}

/-- A file that a normal path leads to without a symlink is listed among all files. -/
theorem mem_listFiles_of_isNormal {content : Bytes} (hcurrent : fs.root.get? fs.current = some (.directory entries))
    (hwell : (Node.directory entries).WellFormed) (hnormal : Path.IsNormal (Utf8.encode p))
    (hlink : (Node.directory entries).avoidsLinks (segments slash (Utf8.encode p)) = true)
    (h : fs.node (Path.join Start.root (Utf8.encode p)) = .ok (.file content)) : p ∈ fs.listFiles Start.root := by
  rw [mem_listFiles_iff hwell root_ne_standardInput (node_period hcurrent)]
  exact ⟨_, content, Path.segments_ne_nil _, get?_of_node_join_period hcurrent hnormal hlink h, relativePath_segments p⟩

theorem sublist_of_pairwise_bytesBefore (hpaths : paths.Pairwise Utf8.BytesBefore)
    (hlisted : listed.Pairwise fun p q => p = q ∨ Utf8.BytesBefore p q) (h : paths ⊆ listed) :
    paths.Sublist listed := by
  have hantisymm : Std.Antisymm fun p q : Text => p = q ∨ Utf8.BytesBefore p q := by
    refine ⟨fun p q hpq hqp => ?_⟩
    rcases hpq with heq | hpq
    · exact heq
    · exact (hqp.resolve_right (Std.Asymm.asymm (Utf8.encode p) (Utf8.encode q) hpq)).symm
  have hnodup : paths.Nodup := by
    refine hpaths.imp ?_
    rintro p q hpq rfl
    exact Utf8.bytesBefore_irrefl p hpq
  exact List.sublist_of_subperm_of_pairwise (hnodup.subperm h) (hpaths.imp .inr) hlisted

/-- What is found in files by ascending paths is found in the same order by other ascending paths, if these hold those
of the files in which something is found. -/
theorem scanFiles_sublist (hpaths : paths.Pairwise Utf8.BytesBefore)
    (hlisted : listed.Pairwise fun p q => p = q ∨ Utf8.BytesBefore p q)
    (h : ∀ f ∈ fs.scanFiles root paths ms, f.path ∈ listed) :
    (fs.scanFiles root paths ms).Sublist (fs.scanFiles root listed ms) := by
  have hfound : paths.filter (fun p => (fs.scanFiles root [p] ms).isEmpty = false) ⊆ listed := by
    intro p hp
    obtain ⟨hp, hne⟩ := List.mem_filter.mp hp
    obtain ⟨f, hf⟩ := List.exists_mem_of_ne_nil _ (List.isEmpty_eq_false_iff.mp (of_decide_eq_true hne))
    obtain ⟨hpath, hcontent⟩ := mem_scanFiles_iff.mp hf
    rw [← List.mem_singleton.mp hpath] at hp ⊢
    exact h f (mem_scanFiles_iff.mpr ⟨hp, hcontent⟩)
  -- the files in which nothing is found may be left out
  have hall : fs.scanFiles root paths ms =
      fs.scanFiles root (paths.filter fun p => (fs.scanFiles root [p] ms).isEmpty = false) ms := by
    rw [scanFiles_filter, List.filter_eq_self.mpr]
    intro f hf
    have halone : f ∈ fs.scanFiles root [f.path] ms :=
      mem_scanFiles_iff.mpr ⟨List.mem_singleton_self f.path, (mem_scanFiles_iff.mp hf).2⟩
    exact decide_eq_true (List.isEmpty_eq_false_iff.mpr (List.ne_nil_of_mem halone))
  rw [hall]
  exact (sublist_of_pairwise_bytesBefore (hpaths.filter _) hlisted hfound).flatMap _

/-- What an audit of a working set finds by paths without symlinks is found in the same order by an audit of all files
with the same markers and patterns, whatever is told of the index and the status, as long as the paths are normal. -/
theorem audit_git_sublist_find {s : Settings} {ps : List Text}
    {told : Repository → Location → Except RepositoryError (Index × List StatusEntry)}
    (hcurrent : fs.root.get? fs.current = some (.directory entries)) (hwell : (Node.directory entries).WellFormed)
    (hroot : s.root = Start.root)
    (hnormal : ∀ t : WorkingSet.Told fs told s.root, ∀ path ∈ t.index.paths ++ t.status.map StatusEntry.path,
      Path.IsNormal path)
    (hlisted : WorkingSet.toldBelow fs told s.root = .ok ps) :
    ∃ git find : List Finding,
      fs.scanFiles s.root (s.filter.apply ps) s.markers = git ∧
      fs.scanFiles s.root (s.filter.apply (fs.listFiles s.root)) s.markers = find ∧
      (git.filter fun f => (Node.directory entries).avoidsLinks (segments slash (Utf8.encode f.path))).Sublist find ∧
      ∀ formatter sink, Formatter.ofMarkers? s.format s.markers = .ok formatter → sink.limit = none →
        sink.flushFails = false →
          Reports fs { s with mode := .find } sink find ∧
          (told = WorkingSet.tell fs → Reports fs { s with mode := .git } sink git) := by
  refine ⟨_, _, rfl, rfl, ?_, ?_⟩
  · obtain ⟨t, rfl⟩ := WorkingSet.exists_told_of_toldBelow hlisted
    have hpaths := List.forall_mem_append.mp (hnormal t)
    rw [← scanFiles_filter fs s.root _ s.markers fun p =>
      (Node.directory entries).avoidsLinks (segments slash (Utf8.encode p))]
    have hall : (fs.listFiles s.root).Pairwise fun p q => p = q ∨ Utf8.BytesBefore p q := by
      rw [hroot]
      exact pairwise_listFiles_eq_or root_ne_standardInput (node_period hcurrent)
    refine scanFiles_sublist (((WorkingSet.pairwise_list _ _ _).filter _).filter _) (hall.filter _) ?_
    intro f hf
    obtain ⟨hmem, content, hnode, _⟩ := mem_scanFiles_iff.mp hf
    obtain ⟨hmem, hlink⟩ := List.mem_filter.mp hmem
    obtain ⟨hmem, hkept⟩ := List.mem_filter.mp hmem
    refine List.mem_filter.mpr ⟨?_, hkept⟩
    have hnormal' := WorkingSet.isNormal_of_mem_list hpaths.1 (List.forall_mem_map.mp hpaths.2) hmem
    rw [hroot] at hnode ⊢
    exact mem_listFiles_of_isNormal hcurrent hwell hnormal' hlink hnode
  · intro formatter sink hformatter hlimit hflush
    refine ⟨reports_scanFiles (s := { s with mode := .find }) hformatter rfl hlimit hflush, ?_⟩
    rintro rfl
    exact reports_scanFiles (s := { s with mode := .git }) hformatter hlisted hlimit hflush

theorem neighbourEntries_wellFormed : (Node.directory WorkingSet.neighbourEntries).WellFormed := by
  have hempty : (Node.directory []).WellFormed := Node.wellFormed_directory .nil (List.forall_mem_nil _)
  have hleaf : ∀ {n : Node}, n.isDirectory = false → n.WellFormed := Node.wellFormed_of_not_isDirectory
  refine Node.wellFormed_directory (by decide +kernel) ?_
  simp only [WorkingSet.neighbourEntries, List.forall_mem_cons]
  refine ⟨⟨by decide +kernel, Node.wellFormed_directory (by decide) ?_⟩,
    ⟨by decide, Node.wellFormed_of_files (by decide) (by decide)⟩,
    ⟨by decide, Node.wellFormed_of_files (by decide) (by decide)⟩, ⟨by decide, hleaf rfl⟩, List.forall_mem_nil _⟩
  simp only [List.forall_mem_cons]
  exact ⟨⟨by decide, hleaf rfl⟩, ⟨by decide, hempty⟩, ⟨by decide, hempty⟩, List.forall_mem_nil _⟩

/-- What is found in a new file of a work tree is found among all files. -/
theorem audit_git_sublist_find_neighbours :
    ∃ git find, Reports WorkingSet.neighbours ⟨Start.root, .git, .plain, .standard, ⟨[]⟩⟩ {} git ∧
      Reports WorkingSet.neighbours ⟨Start.root, .find, .plain, .standard, ⟨[]⟩⟩ {} find ∧
      ⟨"s/a".toList, 1, "TODO: x".toList⟩ ∈ git ∧ ⟨"s/a".toList, 1, "TODO: x".toList⟩ ∈ find := by
  have hnormal : ∀ t : WorkingSet.Told WorkingSet.neighbours (WorkingSet.tell WorkingSet.neighbours) Start.root,
      ∀ path ∈ t.index.paths ++ t.status.map StatusEntry.path, Path.IsNormal path := by
    intro t
    rw [Subsingleton.elim t WorkingSet.neighboursTold]
    decide
  obtain ⟨git, find, hgit, _, hsublist, hreports⟩ := @audit_git_sublist_find WorkingSet.neighbours
    WorkingSet.neighbourEntries ⟨Start.root, .git, .plain, .standard, ⟨[]⟩⟩ _ _ rfl neighbourEntries_wellFormed rfl
    hnormal WorkingSet.neighboursTold.toldBelow
  obtain ⟨hfind, hgit'⟩ := hreports _ {} (Formatter.ofMarkers?_standard _) rfl rfl
  have hfound : (⟨"s/a".toList, 1, "TODO: x".toList⟩ : Finding) ∈ git := by
    have halone : (⟨"s/a".toList, 1, "TODO: x".toList⟩ : Finding) ∈
        WorkingSet.neighbours.scanFiles Start.root ["s/a".toList] .standard := by
      decide +kernel
    rw [← hgit]
    refine mem_scanFiles_iff.mpr ⟨List.mem_filter.mpr ⟨WorkingSet.mem_list.mpr (by decide +kernel), rfl⟩, ?_⟩
    exact (mem_scanFiles_iff.mp halone).2
  exact ⟨git, find, hgit' rfl, hfind, hfound,
    hsublist.subset (List.mem_filter.mpr ⟨hfound, by decide +kernel⟩)⟩

end FileSystem
end MarkerAudit
