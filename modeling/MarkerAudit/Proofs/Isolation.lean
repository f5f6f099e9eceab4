import Mathlib.Data.List.Sort
import MarkerAudit.Proofs.Audit
import MarkerAudit.Proofs.Edit

/-!
# One changed entry

Two trees that differ in one entry hold the same files everywhere else, so that audits of all files report the same in
the same order about every path but that of the entry.
-/

namespace MarkerAudit

/-! ## Audits of two trees -/

/-- The order of findings by paths and lines. -/
def Finding.Before (f g : Finding) : Prop := Utf8.BytesBefore f.path g.path ∨ f.path = g.path ∧ f.line < g.line

instance : Std.Asymm Finding.Before := by
  refine ⟨fun f g hfg hgf => ?_⟩
  rcases hfg with hfg | ⟨hpath, hline⟩
  · rcases hgf with hgf | ⟨hpath, _⟩
    · exact Std.Asymm.asymm (Utf8.encode f.path) (Utf8.encode g.path) hfg hgf
    · exact Utf8.bytesBefore_irrefl f.path (hpath ▸ hfg)
  · rcases hgf with hgf | ⟨_, hline'⟩
    · exact Utf8.bytesBefore_irrefl f.path (hpath ▸ hgf)
    · exact Nat.lt_asymm hline hline'

namespace FileSystem

variable {fs fs' : FileSystem} {entries entries' : List (Name × Node)} {l : Location} {s : Settings} {sink : Sink}

/-- The current directory holds the entries. They form a tree whose names are texts, and no file's path is too long to
be read by. -/
structure Holds (fs : FileSystem) (entries : List (Name × Node)) : Prop where
  current : fs.root.get? fs.current = some (.directory entries)
  wellFormed : (Node.directory entries).WellFormed
  textNames : (Node.directory entries).HasTextNames
  readable : ∀ (l : Location) content, (Node.directory entries).get? l = some (.file content) →
    (Path.join Start.root l.path).length ≤ Path.maxPath

/-- What there is to report about other paths does not depend on the changed entry. -/
theorem reportable_iff_of_changedAt (h : (Node.directory entries).ChangedAt (.directory entries') l) {f : Finding}
    (hpath : f.path ≠ relativePath l) :
    Reportable (.directory entries') s f ↔ Reportable (.directory entries) s f := by
  refine exists_congr fun m => exists_congr fun content => exists_congr fun raw => exists_congr fun i => ?_
  by_cases hm : m = l
  · have hencode : Utf8.encode f.path ≠ m.path := by
      intro he
      rw [hm] at he
      refine hpath ?_
      rw [relativePath_eq_decode, ← he, Utf8.decode_encode]
    simp [hencode]
  · rw [h.get?_eq_file_iff hm]

/-- The findings of an audit of all files come in the order of their paths and lines. -/
theorem Holds.pairwise_scanFiles_listFiles (h : Holds fs entries) (hroot : s.root = Start.root) :
    (fs.scanFiles s.root (s.filter.apply (fs.listFiles s.root)) s.markers).Pairwise Finding.Before := by
  have hlisted := pairwise_listFiles h.wellFormed h.textNames root_ne_standardInput (node_period h.current)
  rw [hroot]
  exact pairwise_scanFiles (hlisted.filter _)

/-- Where one entry is new or one file has other bytes, audits of all files with the same settings fail alike or report
the same in the same order about every other path. What only one of them reports has the path of the entry. -/
theorem audit_find_isolated (h : Holds fs entries) (h' : Holds fs' entries')
    (hchange : (Node.directory entries).ChangedAt (.directory entries') l) (hroot : s.root = Start.root)
    (hmode : s.mode = .find) (hlimit : sink.limit = none) (hflush : sink.flushFails = false) :
    (∃ e, (fs.audit s sink).result = .error (.formatter e) ∧ (fs'.audit s sink).result = .error (.formatter e)) ∨
      ∃ found found', Reports fs s sink found ∧ Reports fs' s sink found' ∧
        found.filter (fun f => f.path ≠ relativePath l) = found'.filter (fun f => f.path ≠ relativePath l) ∧
        ∀ f, (f ∈ found ∧ f ∉ found' ∨ f ∈ found' ∧ f ∉ found) → f.path = relativePath l := by
  cases hformatter : Formatter.ofMarkers? s.format s.markers with
  | error e =>
      exact .inl ⟨e, (audit_of_formatter_error hformatter).2.1, (audit_of_formatter_error hformatter).2.1⟩
  | ok formatter =>
      have hlisted : ∀ fs : FileSystem, fs.candidates s.mode s.root = .ok (fs.listFiles s.root) := by
        intro fs
        rw [hmode]
        rfl
      have hmem := @mem_scanFiles_listFiles_iff fs s entries h.current h.wellFormed h.textNames h.readable hroot
      have hmem' := @mem_scanFiles_listFiles_iff fs' s entries' h'.current h'.wellFormed h'.textNames h'.readable hroot
      have hsame : ∀ f : Finding, f.path ≠ relativePath l →
          (f ∈ fs.scanFiles s.root (s.filter.apply (fs.listFiles s.root)) s.markers ↔
            f ∈ fs'.scanFiles s.root (s.filter.apply (fs'.listFiles s.root)) s.markers) := by
        intro f hpath
        rw [hmem, hmem', reportable_iff_of_changedAt hchange hpath]
      refine .inr ⟨_, _, reports_scanFiles hformatter (hlisted fs) hlimit hflush,
        reports_scanFiles hformatter (hlisted fs') hlimit hflush, ?_, ?_⟩
      · -- the order of findings leaves no choice among lists that hold the same
        refine ((h.pairwise_scanFiles_listFiles hroot).filter _).eq_of_mem_iff
          ((h'.pairwise_scanFiles_listFiles hroot).filter _) fun f => ?_
        simp only [List.mem_filter, decide_eq_true_eq]
        exact and_congr_left (hsame f)
      · intro f hf
        by_contra hpath
        have hboth := hsame f hpath
        rcases hf with ⟨hin, hout⟩ | ⟨hin, hout⟩
        · exact hout (hboth.mp hin)
        · exact hout (hboth.mpr hin)

/-! ## A file beside another -/

/-- The paths of files are short enough if those that are listed are. -/
theorem readable_of_files (hwell : (Node.directory entries).WellFormed)
    (h : ∀ l ∈ (Node.directory entries).files, (Path.join Start.root l.path).length ≤ Path.maxPath) :
    ∀ (l : Location) content, (Node.directory entries).get? l = some (.file content) →
      (Path.join Start.root l.path).length ≤ Path.maxPath := by
  intro l content hget
  refine h l ((Node.mem_files_iff hwell).mpr ⟨?_, content, hget⟩)
  rintro rfl
  cases hget

/-- The nested directory with a file of rules beside its file, which holds a marker too. -/
def siblingEntries : List (Name × Node) :=
  [([0x64], .directory [([0x62], .file [0x78, 0x0A, 0x54, 0x4F, 0x44, 0x4F, 0x3A, 0x20, 0x79]),
    (Utf8.encode ".gitignore".toList, .file (Utf8.encode "b\nTODO: z\n".toList))])]

theorem siblingEntries_wellFormed : (Node.directory siblingEntries).WellFormed := by
  refine Node.wellFormed_directory (by decide) (List.forall_mem_singleton.mpr ⟨by decide, ?_⟩)
  refine Node.wellFormed_directory (by decide) ?_
  simp only [List.forall_mem_cons]
  exact ⟨⟨by decide, Node.wellFormed_of_not_isDirectory rfl⟩, ⟨by decide, Node.wellFormed_of_not_isDirectory rfl⟩,
    List.forall_mem_nil _⟩

theorem siblingEntries_hasTextNames : (Node.directory siblingEntries).HasTextNames := by
  refine Node.hasTextNames_directory (List.forall_mem_singleton.mpr ⟨⟨['d'], rfl⟩, ?_⟩)
  refine Node.hasTextNames_directory ?_
  simp only [List.forall_mem_cons]
  exact ⟨⟨⟨['b'], rfl⟩, Node.hasTextNames_of_not_isDirectory rfl⟩, ⟨⟨_, rfl⟩, Node.hasTextNames_of_not_isDirectory rfl⟩,
    List.forall_mem_nil _⟩

/-- A new file of rules adds its own line to the report and takes none away. -/
theorem audit_find_isolated_rules :
    ∃ found found', Reports ⟨.directory nestedEntries, []⟩ ⟨Start.root, .find, .plain, .standard, ⟨[]⟩⟩ {} found ∧
      Reports ⟨.directory siblingEntries, []⟩ ⟨Start.root, .find, .plain, .standard, ⟨[]⟩⟩ {} found' ∧
      found.filter (fun f => f.path ≠ "d/.gitignore".toList) = [⟨"d/b".toList, 2, "TODO: y".toList⟩] ∧
      found'.filter (fun f => f.path ≠ "d/.gitignore".toList) = [⟨"d/b".toList, 2, "TODO: y".toList⟩] ∧
      ⟨"d/.gitignore".toList, 2, "TODO: z".toList⟩ ∈ found' := by
  have hnested : Holds ⟨.directory nestedEntries, []⟩ nestedEntries :=
    ⟨rfl, nestedEntries_wellFormed, nestedEntries_hasTextNames, readable_of_files nestedEntries_wellFormed (by decide)⟩
  have hsibling : Holds ⟨.directory siblingEntries, []⟩ siblingEntries :=
    ⟨rfl, siblingEntries_wellFormed, siblingEntries_hasTextNames,
      readable_of_files siblingEntries_wellFormed (by decide)⟩
  have hchange : (Node.directory nestedEntries).ChangedAt (.directory siblingEntries)
      [[0x64], Utf8.encode ".gitignore".toList] :=
    @Node.changedAt_set (.directory nestedEntries) (.file (Utf8.encode "b\nTODO: z\n".toList))
      (Utf8.encode ".gitignore".toList) [[0x64]] _ rfl (.inl ⟨rfl, rfl⟩)
  have hlisted : (FileSystem.mk (.directory nestedEntries) []).listFiles Start.root = ["d/b".toList] :=
    listFiles_of_pairwise (n := .directory nestedEntries) root_ne_standardInput (node_period rfl) (by decide)
  have hlisted' : "d/.gitignore".toList ∈ (FileSystem.mk (.directory siblingEntries) []).listFiles Start.root :=
    (mem_listFiles_iff siblingEntries_wellFormed root_ne_standardInput (node_period rfl)).mpr
      ⟨[[0x64], Utf8.encode ".gitignore".toList], _, List.cons_ne_nil _ _, rfl, rfl⟩
  obtain ⟨e, herror, _⟩ | ⟨found, found', hfound, hfound', hsame, _⟩ :=
    @audit_find_isolated _ _ _ _ _ ⟨Start.root, .find, .plain, .standard, ⟨[]⟩⟩ {} hnested hsibling hchange
      rfl rfl rfl rfl
  · have hresult := (@audit_find ⟨.directory nestedEntries, []⟩ ⟨Start.root, .find, .plain, .standard, ⟨[]⟩⟩ {} _ rfl
      (Formatter.ofMarkers?_standard _) rfl rfl _ rfl).2
    cases herror.symm.trans hresult
  · obtain ⟨_, hcandidates, hscanned⟩ := hfound.scanned
    obtain ⟨_, hcandidates', hscanned'⟩ := hfound'.scanned
    obtain rfl := Except.ok.inj hcandidates
    obtain rfl := Except.ok.inj hcandidates'
    have hbefore : found = [⟨"d/b".toList, 2, "TODO: y".toList⟩] := by
      rw [← hscanned, hlisted]
      rfl
    have halone : (⟨"d/.gitignore".toList, 2, "TODO: z".toList⟩ : Finding) ∈
        (FileSystem.mk (.directory siblingEntries) []).scanFiles Start.root ["d/.gitignore".toList] .standard :=
      List.mem_singleton_self _
    subst hbefore
    refine ⟨_, found', hfound, hfound', rfl, hsame.symm, ?_⟩
    rw [← hscanned']
    exact mem_scanFiles_iff.mpr ⟨List.mem_filter.mpr ⟨hlisted', rfl⟩, (mem_scanFiles_iff.mp halone).2⟩

end FileSystem
end MarkerAudit
