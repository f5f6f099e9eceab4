import Mathlib.Data.Set.Card
import MarkerAudit.Proofs.Audit

/-!
# Names that are not UTF-8

Files are listed by paths in which U+FFFD stands for what is not UTF-8, so that the paths of different files may be
alike. A path is listed, and each line with a marker that it leads to is reported, as often as there are files with it.
-/

namespace MarkerAudit

namespace Node

variable {entries : List (Name × Node)} {l : Location}

/-- The locations of the regular files below a node. -/
def fileLocations (n : Node) : Set Location := { l | ∃ content, n.get? l = some (.file content) }

/-- The locations of the regular files below a node that have a path. -/
def filesAt (n : Node) (p : Text) : Set Location := { l ∈ n.fileLocations | relativePath l = p }

theorem ne_nil_of_mem_fileLocations (h : l ∈ (directory entries).fileLocations) : l ≠ [] := by
  obtain ⟨content, hget⟩ := h
  rintro rfl
  cases hget

theorem mem_files_directory_iff (hwell : (directory entries).WellFormed) :
    l ∈ (directory entries).files ↔ l ∈ (directory entries).fileLocations := by
  rw [mem_files_iff hwell]
  constructor
  · rintro ⟨_, hl⟩
    exact hl
  · intro hl
    exact ⟨ne_nil_of_mem_fileLocations hl, hl⟩

/-- A directory of files is well-formed if its entries have different names. -/
theorem wellFormed_of_files (hnodup : (entries.map Prod.fst).Nodup)
    (hentries : ∀ e ∈ entries, IsName e.1 ∧ e.2.isFile = true) : (directory entries).WellFormed := by
  refine wellFormed_directory hnodup fun e he => ⟨(hentries e he).1, wellFormed_of_not_isDirectory ?_⟩
  obtain ⟨content, hfile⟩ := isFile_iff.mp (hentries e he).2
  rw [hfile]
  rfl

end Node

namespace FileSystem

variable {fs : FileSystem} {root : Bytes} {n : Node} {entries : List (Name × Node)} {l m : Location} {ms : MarkerSet}
  {p : Text}

/-! ## Listing -/

theorem relativePath_eq_iff_map_decode (hwell : (Node.directory entries).WellFormed)
    (hl : l ∈ (Node.directory entries).fileLocations) (hm : m ∈ (Node.directory entries).fileLocations) :
    relativePath l = relativePath m ↔ l.map Utf8.decode = m.map Utf8.decode := by
  have hslash : ∀ {l}, l ∈ (Node.directory entries).fileLocations → ∀ name ∈ l, Ascii.slash ∉ name := by
    rintro l ⟨content, hget⟩ name hname
    exact (hwell.isName hget name hname).no_slash
  exact relativePath_eq_iff (Node.ne_nil_of_mem_fileLocations hl)
    (Node.ne_nil_of_mem_fileLocations hm) (hslash hl) (hslash hm)

/-- A listing is ascending, with or without repeats. -/
theorem pairwise_listFiles_eq_or (hroot : root ≠ standardInput) (h : fs.node root = .ok n) :
    (fs.listFiles root).Pairwise fun p q => p = q ∨ Utf8.BytesBefore p q := by
  rw [listFiles_eq hroot h]
  refine (Text.pairwise_comesBefore_sort _).imp ?_
  intro p q hpq
  rw [or_iff_not_imp_left]
  intro hne
  exact Utf8.bytesBefore_of_lex (Text.lex_of_comesBefore hpq hne)

/-- A path is listed once for each file that has it. -/
theorem count_listFiles (hwell : (Node.directory entries).WellFormed) (hroot : root ≠ standardInput)
    (h : fs.node root = .ok (.directory entries)) :
    (fs.listFiles root).count p = ((Node.directory entries).filesAt p).ncard := by
  have hset : (Node.directory entries).filesAt p =
      ((Node.directory entries).files.filter fun l => relativePath l == p).toFinset := by
    ext l
    simp [Node.filesAt, Node.mem_files_directory_iff hwell]
  have hnodup := (Node.files_nodup _ hwell).filter fun l => relativePath l == p
  calc (fs.listFiles root).count p = ((Node.directory entries).files.map relativePath).count p := by
        rw [listFiles_eq hroot h]
        exact (List.mergeSort_perm _ _).count_eq p
    _ = ((Node.directory entries).files.filter fun l => relativePath l == p).length := by
        rw [List.count_eq_countP, List.countP_map, List.countP_eq_length_filter]
        rfl
    _ = ((Node.directory entries).filesAt p).ncard := by
        rw [hset, Set.ncard_coe_finset, List.toFinset_card_of_nodup hnodup]

/-- A listing is without repeats just when the names of different files decode differently somewhere. -/
theorem pairwise_listFiles_iff (hwell : (Node.directory entries).WellFormed) (hroot : root ≠ standardInput)
    (h : fs.node root = .ok (.directory entries)) :
    (fs.listFiles root).Pairwise Utf8.BytesBefore ↔
      Set.InjOn (List.map Utf8.decode) (Node.directory entries).fileLocations := by
  rw [listFiles_eq hroot h, pairwise_bytesBefore_sort_iff]
  constructor
  · intro hnodup l hl m hm heq
    refine List.inj_on_of_nodup_map hnodup ((Node.mem_files_directory_iff hwell).mpr hl)
      ((Node.mem_files_directory_iff hwell).mpr hm) ?_
    exact (relativePath_eq_iff_map_decode hwell hl hm).mpr heq
  · intro hinj
    refine (Node.files_nodup _ hwell).map_on ?_
    intro l hl m hm heq
    have hl := (Node.mem_files_directory_iff hwell).mp hl
    have hm := (Node.mem_files_directory_iff hwell).mp hm
    exact hinj hl hm ((relativePath_eq_iff_map_decode hwell hl hm).mp heq)

/-! ## Reporting -/

/-- What is found in a file is found as often as its path is scanned. -/
theorem count_scanFiles {f : Finding} {paths : List Text} (h : f ∈ fs.scanFiles root paths ms) :
    (fs.scanFiles root paths ms).count f = paths.count f.path := by
  have hf : f ∈ ((fs.scanFile root f.path ms).toOption).getD [] :=
    mem_scanFile_iff.mpr ⟨rfl, (mem_scanFiles_iff.mp h).2⟩
  have hnodup : (((fs.scanFile root f.path ms).toOption).getD []).Nodup := by
    refine (pairwise_scanFile fs root f.path ms).imp ?_
    rintro g _ hlt rfl
    exact Nat.lt_irrefl _ hlt
  clear h
  induction paths with
  | nil => rfl
  | cons path paths ih =>
      rw [scanFiles, List.flatMap_cons, List.count_append, ← scanFiles, ih, List.count_cons, Nat.add_comm]
      by_cases hpath : path = f.path
      · subst hpath
        rw [List.count_eq_one_of_mem hnodup hf, if_pos (beq_self_eq_true _)]
      · have hnone : f ∉ ((fs.scanFile root path ms).toOption).getD [] := by
          intro hmem
          exact hpath (mem_scanFile_iff.mp hmem).1.symm
        rw [List.count_eq_zero_of_not_mem hnone, if_neg (by simpa using hpath)]

/-- Whatever bytes names are made of, a listing is ascending and has each path once for each file with that path. It is
strictly ascending just when the names of different files decode differently somewhere. What an audit reports of a path
it reports once for each file with that path too. -/
theorem listFiles_repeats_alike (hcurrent : fs.root.get? fs.current = some (.directory entries))
    (hwell : (Node.directory entries).WellFormed) :
    (fs.listFiles Start.root).Pairwise (fun p q => p = q ∨ Utf8.BytesBefore p q) ∧
      (∀ p, (fs.listFiles Start.root).count p = ((Node.directory entries).filesAt p).ncard) ∧
      ((fs.listFiles Start.root).Pairwise Utf8.BytesBefore ↔
        Set.InjOn (List.map Utf8.decode) (Node.directory entries).fileLocations) ∧
      ∀ (s : Settings) (formatter : Formatter) (sink : Sink), s.root = Start.root → s.mode = .find →
        Formatter.ofMarkers? s.format s.markers = .ok formatter → sink.limit = none → sink.flushFails = false →
        ∃ found, fs.scanFiles s.root (s.filter.apply (fs.listFiles s.root)) s.markers = found ∧
          (fs.audit s sink).sink.held = sink.held ++ found.flatMap (fun f => s.format.render f ++ ['\n']) ∧
          ∀ f ∈ found, found.count f = ((Node.directory entries).filesAt f.path).ncard := by
  have hnode : fs.node Start.root = .ok (.directory entries) := node_period hcurrent
  have hcount : ∀ p, (fs.listFiles Start.root).count p = ((Node.directory entries).filesAt p).ncard :=
    fun _ => count_listFiles hwell root_ne_standardInput hnode
  refine ⟨pairwise_listFiles_eq_or root_ne_standardInput hnode, hcount,
    pairwise_listFiles_iff hwell root_ne_standardInput hnode, ?_⟩
  intro s formatter sink hroot hmode hformatter hlimit hflush
  refine ⟨_, rfl, (audit_find hmode hformatter hlimit hflush rfl).1, ?_⟩
  intro f hf
  have hkept : s.filter.isRetained f.path = true := (List.mem_filter.mp (mem_scanFiles_iff.mp hf).1).2
  rw [count_scanFiles hf, PathFilter.apply, List.count_filter hkept, hroot, hcount]

/-- A file with a marker beside an empty one whose name is not UTF-8. -/
def apartEntries : List (Name × Node) :=
  [([0x61], .file [0x54, 0x4F, 0x44, 0x4F, 0x3A, 0x20, 0x78, 0x0A]), ([0xFF], .file [])]

/-- A name that is not UTF-8 leaves a listing strictly ascending if no other decodes as it does, and what is found is
reported once. -/
theorem listFiles_repeats_alike_apart :
    (listFiles ⟨.directory apartEntries, []⟩ Start.root).Pairwise Utf8.BytesBefore ∧
      ∃ found : List Finding,
        (audit ⟨.directory apartEntries, []⟩ ⟨Start.root, .find, .plain, .standard, ⟨[]⟩⟩ {}).sink.held =
          found.flatMap (fun f => ReportFormat.render .plain f ++ ['\n']) ∧
        found.count ⟨['a'], 1, "TODO: x".toList⟩ = 1 := by
  have hwell : (Node.directory apartEntries).WellFormed := Node.wellFormed_of_files (by decide) (by decide)
  have hinj : Set.InjOn (List.map Utf8.decode) (Node.directory apartEntries).fileLocations := by
    have hfiles : ∀ l ∈ (Node.directory apartEntries).files, ∀ m ∈ (Node.directory apartEntries).files,
        l.map Utf8.decode = m.map Utf8.decode → l = m := by
      decide +kernel
    intro l hl m hm
    exact hfiles l ((Node.mem_files_directory_iff hwell).mpr hl) m ((Node.mem_files_directory_iff hwell).mpr hm)
  have hlisted : listFiles ⟨.directory apartEntries, []⟩ Start.root = [['a'], [Utf8.replacement]] :=
    listFiles_of_pairwise (n := .directory apartEntries) root_ne_standardInput (node_period rfl) (by decide)
  have hfound : (⟨['a'], 1, "TODO: x".toList⟩ : Finding) ∈ scanFiles ⟨.directory apartEntries, []⟩ Start.root
      (PathFilter.apply ⟨[]⟩ (listFiles ⟨.directory apartEntries, []⟩ Start.root)) .standard := by
    rw [hlisted]
    decide +kernel
  have honce : (listFiles ⟨.directory apartEntries, []⟩ Start.root).count ['a'] = 1 := by
    rw [hlisted]
    rfl
  obtain ⟨_, hcount, hstrict, hreports⟩ :=
    @listFiles_repeats_alike ⟨.directory apartEntries, []⟩ apartEntries rfl hwell
  obtain ⟨found, rfl, hheld, htimes⟩ :=
    hreports ⟨Start.root, .find, .plain, .standard, ⟨[]⟩⟩ _ {} rfl rfl (Formatter.ofMarkers?_standard _) rfl rfl
  refine ⟨hstrict.mpr hinj, _, hheld, ?_⟩
  rw [htimes _ hfound, ← hcount, honce]

/-- An empty file whose name is not UTF-8 beside one with a marker whose name is what stands for the other's. -/
def alikeEntries : List (Name × Node) :=
  [([0xFF], .file []), ([0xEF, 0xBF, 0xBD], .file [0x54, 0x4F, 0x44, 0x4F, 0x3A, 0x20, 0x78, 0x0A])]

/-- Where two names decode alike, a path is listed twice and a line with a marker is reported twice. -/
theorem audit_alike_twice :
    (Node.directory alikeEntries).WellFormed ∧
      ¬ (listFiles ⟨.directory alikeEntries, []⟩ Start.root).Pairwise Utf8.BytesBefore ∧
      ∃ s, Settings.ofOptions { mode := .find } Start.root ['m'] = .ok s ∧
        (audit ⟨.directory alikeEntries, []⟩ s {}).sink.held = "\uFFFD:1:TODO: x\n\uFFFD:1:TODO: x\n".toList := by
  have hlisted : listFiles ⟨.directory alikeEntries, []⟩ Start.root = [[Utf8.replacement], [Utf8.replacement]] :=
    listFiles_of_pairwise (n := .directory alikeEntries) root_ne_standardInput (node_period rfl) (by decide)
  refine ⟨Node.wellFormed_of_files (by decide) (by decide), ?_, ?_⟩
  · rw [hlisted, List.pairwise_pair]
    exact Utf8.bytesBefore_irrefl _
  · obtain ⟨filter, hlists, hkept⟩ :=
      @PathFilter.exists_ofLists?_of_isRetained ['m'] [Utf8.replacement] (by decide +kernel)
    have hfound :
        scanFiles ⟨.directory alikeEntries, []⟩ Start.root [[Utf8.replacement], [Utf8.replacement]] .standard =
        [⟨[Utf8.replacement], 1, "TODO: x".toList⟩, ⟨[Utf8.replacement], 1, "TODO: x".toList⟩] := by
      decide +kernel
    have happly : filter.apply [[Utf8.replacement], [Utf8.replacement]] = [[Utf8.replacement], [Utf8.replacement]] := by
      rw [PathFilter.apply, List.filter_cons_of_pos hkept, List.filter_cons_of_pos hkept, List.filter_nil]
    refine ⟨⟨Start.root, .find, .plain, .standard, filter⟩,
      Settings.ofOptions_eq_ok_iff.mpr ⟨rfl, hlists, rfl, rfl, rfl⟩, ?_⟩
    rw [(@audit_find ⟨.directory alikeEntries, []⟩ ⟨Start.root, .find, .plain, .standard, filter⟩ {} _ rfl
      (Formatter.ofMarkers?_standard _) rfl rfl _ rfl).1]
    dsimp only
    rw [hlisted, happly, hfound]
    rfl

end FileSystem
end MarkerAudit
