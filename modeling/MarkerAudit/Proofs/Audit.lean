import MarkerAudit.Audit
import MarkerAudit.Program
import MarkerAudit.Proofs.Path
import MarkerAudit.Proofs.Report
import MarkerAudit.Proofs.Scan
import MarkerAudit.Proofs.Writing

/-!
# What an audit reports

An audit of all files below the current directory reports every line with a marker once, and nothing else.
-/

namespace MarkerAudit

open Ascii

/-! ## Settings -/

theorem Settings.ofOptions_eq_ok_iff {o : Options} {root : Bytes} {name : Text} {s : Settings} :
    ofOptions o root name = .ok s ↔ markersOf o.keywords = .ok s.markers ∧
      PathFilter.ofLists? name o.includes o.excludes = .ok s.filter ∧ s.root = root ∧ s.mode = o.mode ∧
      s.format = o.format := by
  obtain ⟨root', mode, format, markers, filter⟩ := s
  unfold ofOptions
  cases markersOf o.keywords with
  | error e => simp
  | ok markers' =>
      cases PathFilter.ofLists? name o.includes o.excludes with
      | error e => simp
      | ok filter' =>
          simp only [Except.ok.injEq, mk.injEq]
          constructor
          · rintro ⟨rfl, rfl, rfl, rfl, rfl⟩
            exact ⟨rfl, rfl, rfl, rfl, rfl⟩
          · rintro ⟨rfl, rfl, rfl, rfl, rfl⟩
            exact ⟨rfl, rfl, rfl, rfl, rfl⟩

/-- What succeeds with a value has that value, as evaluating it shows. -/
theorem exists_ok_of_map_toOption {ε α β : Type} {x : Except ε α} {g : α → β} {b : β}
    (h : x.toOption.map g = some b) : ∃ a, x = .ok a ∧ g a = b := by
  cases x with
  | error e => cases h
  | ok a => exact ⟨a, rfl, Option.some.inj h⟩

theorem exists_ok_of_forall_ne_error {ε α : Type} {x : Except ε α} (h : ∀ e, x ≠ .error e) : ∃ a, x = .ok a := by
  cases x with
  | error e => exact absurd rfl (h e)
  | ok a => exact ⟨a, rfl⟩

/-- A filter without patterns is there if it keeps some path, as evaluating it shows. -/
theorem PathFilter.exists_ofLists?_of_isRetained {name path : Text}
    (h : (ofLists? name [] []).toOption.map (·.isRetained path) = some true) :
    ∃ filter, ofLists? name [] [] = .ok filter ∧ filter.isRetained path = true :=
  exists_ok_of_map_toOption h

theorem Verdict.decide_eq_clean_iff {reported : Bool} {fmt : ReportFormat} :
    decide reported fmt = .clean ↔ reported = false := by
  cases fmt <;> cases reported <;> simp [decide]

namespace FileSystem

variable {fs : FileSystem} {root : Bytes} {paths : List Text} {ms : MarkerSet}

/-! ## Scanning files -/

theorem waitsAt_iff {path : Text} :
    fs.waitsAt root path = true ↔ fs.node (Path.join root (Utf8.encode path)) = .ok (.special .pipe) := by
  unfold waitsAt
  split <;> simp_all

/-- Only a regular file that is read holds anything, whatever keeps another from being read. -/
theorem toOption_scanFile (fs : FileSystem) (root : Bytes) (path : Text) (ms : MarkerSet) :
    ((fs.scanFile root path ms).toOption).getD [] =
      match fs.node (Path.join root (Utf8.encode path)) with
      | .ok (.file content) => Scan.contents ms path content
      | _ => [] := by
  unfold scanFile
  cases fs.node (Path.join root (Utf8.encode path)) with
  | error e => rfl
  | ok n =>
      cases n with
      | special kind => cases kind <;> rfl
      | _ => rfl

theorem mem_scanFile_iff {path : Text} {f : Finding} :
    f ∈ ((fs.scanFile root path ms).toOption).getD [] ↔ f.path = path ∧
      ∃ content, fs.node (Path.join root (Utf8.encode path)) = .ok (.file content) ∧
        f ∈ Scan.contents ms path content := by
  have hpath : ∀ {content}, f ∈ Scan.contents ms path content → f.path = path := by
    intro content hf
    obtain ⟨_, raw, _, hfound⟩ := Scan.mem_contents_iff.mp hf
    exact (Scan.finding?_eq_some_iff.mp hfound).1
  rw [toOption_scanFile]
  cases fs.node (Path.join root (Utf8.encode path)) with
  | error e => simp
  | ok n =>
      cases n with
      | file content =>
          constructor
          · intro hf
            exact ⟨hpath hf, content, rfl, hf⟩
          · rintro ⟨_, content', ⟨rfl⟩, hf⟩
            exact hf
      | _ => simp

theorem mem_scanFiles_iff {f : Finding} :
    f ∈ fs.scanFiles root paths ms ↔ f.path ∈ paths ∧
      ∃ content, fs.node (Path.join root (Utf8.encode f.path)) = .ok (.file content) ∧
        f ∈ Scan.contents ms f.path content := by
  simp only [scanFiles, List.mem_flatMap, mem_scanFile_iff]
  constructor
  · rintro ⟨_, hmem, rfl, hfound⟩
    exact ⟨hmem, hfound⟩
  · rintro ⟨hmem, hfound⟩
    exact ⟨_, hmem, rfl, hfound⟩

theorem pairwise_scanFile (fs : FileSystem) (root : Bytes) (path : Text) (ms : MarkerSet) :
    (((fs.scanFile root path ms).toOption).getD []).Pairwise fun f g => f.line < g.line := by
  rw [toOption_scanFile]
  cases fs.node (Path.join root (Utf8.encode path)) with
  | error e => exact .nil
  | ok n =>
      cases n with
      | file content => exact Scan.contents_pairwise ms path content
      | _ => exact .nil

/-- Findings come in the order of the files, and in one file in the order of its lines. -/
theorem pairwise_scanFiles {r : Text → Text → Prop} (h : paths.Pairwise r) :
    (fs.scanFiles root paths ms).Pairwise fun f g => r f.path g.path ∨ f.path = g.path ∧ f.line < g.line := by
  refine List.pairwise_flatMap.mpr ⟨?_, h.imp ?_⟩
  · intro path _
    refine (pairwise_scanFile fs root path ms).imp_of_mem ?_
    intro f g hf hg hlt
    exact .inr ⟨(mem_scanFile_iff.mp hf).1.trans (mem_scanFile_iff.mp hg).1.symm, hlt⟩
  · intro p q hpq f hf g hg
    rw [(mem_scanFile_iff.mp hf).1, (mem_scanFile_iff.mp hg).1]
    exact .inl hpq

/-- Filtering the paths of files is filtering what is found in them. -/
theorem scanFiles_filter (fs : FileSystem) (root : Bytes) (paths : List Text) (ms : MarkerSet) (p : Text → Bool) :
    fs.scanFiles root (paths.filter p) ms = (fs.scanFiles root paths ms).filter fun f => p f.path := by
  have hfile : ∀ path, (((fs.scanFile root path ms).toOption).getD []).filter (fun f => p f.path) =
      if p path then ((fs.scanFile root path ms).toOption).getD [] else [] := by
    intro path
    have hpath : ∀ f ∈ ((fs.scanFile root path ms).toOption).getD [], p f.path = p path := by
      intro f hf
      rw [(mem_scanFile_iff.mp hf).1]
    rw [List.filter_congr hpath]
    cases p path with
    | true => simp
    | false => simp
  simp only [scanFiles, List.filter_flatMap, hfile]
  induction paths with
  | nil => rfl
  | cons path paths ih =>
      rw [List.flatMap_cons, ← ih]
      cases hp : p path with
      | true => rw [List.filter_cons_of_pos hp, List.flatMap_cons, if_pos rfl]
      | false => rw [List.filter_cons_of_neg (by simp [hp]), if_neg Bool.false_ne_true, List.nil_append]

/-! ## Audits -/

variable {s : Settings} {sink : Sink} {formatter : Formatter}

/-- Where the pattern of a written line is refused, no file is listed or opened and nothing is written. -/
theorem audit_of_formatter_error {e : Pattern.Error} (h : Formatter.ofMarkers? s.format s.markers = .error e) :
    (fs.audit s sink).sink = sink ∧ (fs.audit s sink).result = .error (.formatter e) ∧
      (fs.audit s sink).waits = [] := by
  unfold audit
  simp only [h]
  exact ⟨trivial, trivial, trivial⟩

/-- Where files cannot be listed, none is opened and nothing is written. -/
theorem audit_of_listing_error {e : ListingError}
    (hformatter : Formatter.ofMarkers? s.format s.markers = .ok formatter)
    (h : fs.candidates s.mode s.root = .error e) :
    (fs.audit s sink).sink = sink ∧ (fs.audit s sink).result = .error (.listing e) ∧
      (fs.audit s sink).waits = [] := by
  unfold audit
  simp only [hformatter, h]
  exact ⟨trivial, trivial, trivial⟩

/-- Otherwise an audit whose sink accepts everything writes what scanning the files that are kept finds. -/
theorem audit_of_candidates {candidates : List Text} {found : List Finding}
    (hformatter : Formatter.ofMarkers? s.format s.markers = .ok formatter)
    (hcandidates : fs.candidates s.mode s.root = .ok candidates) (hlimit : sink.limit = none)
    (hflush : sink.flushFails = false)
    (hfound : fs.scanFiles s.root (s.filter.apply candidates) s.markers = found) :
    (fs.audit s sink).sink.held = sink.held ++ found.flatMap (fun f => s.format.render f ++ ['\n']) ∧
      (fs.audit s sink).result = .ok (.decide (0 < found.length) s.format) := by
  have hformat : formatter.format = s.format :=
    congrArg Formatter.format (Formatter.ofMarkers?_eq_ok_iff.mp hformatter).1
  have hreport := Sink.writeReport_of_fits (Sink.fits_of_no_limit hlimit (s.format.written found)) hflush
  unfold audit
  simp only [hformatter, hcandidates, hfound, hformat, hreport]
  exact ⟨rfl, trivial⟩

/-- It waits for the pipes among these files, whatever becomes of its report. -/
theorem waits_of_candidates {candidates : List Text}
    (hformatter : Formatter.ofMarkers? s.format s.markers = .ok formatter)
    (hcandidates : fs.candidates s.mode s.root = .ok candidates) :
    (fs.audit s sink).waits = (s.filter.apply candidates).filter (fs.waitsAt s.root) := by
  unfold audit
  simp only [hformatter, hcandidates]
  split <;> rfl

/-- The audit has found the findings in the files that it lists and keeps, has written a line for each of them, in
order, and ends with the verdict on them. -/
structure Reports (fs : FileSystem) (s : Settings) (sink : Sink) (found : List Finding) : Prop where
  scanned : ∃ candidates, fs.candidates s.mode s.root = .ok candidates ∧
    fs.scanFiles s.root (s.filter.apply candidates) s.markers = found
  held : (fs.audit s sink).sink.held = sink.held ++ found.flatMap (fun f => s.format.render f ++ ['\n'])
  result : (fs.audit s sink).result = .ok (.decide (0 < found.length) s.format)

theorem reports_scanFiles {candidates : List Text}
    (hformatter : Formatter.ofMarkers? s.format s.markers = .ok formatter)
    (hcandidates : fs.candidates s.mode s.root = .ok candidates) (hlimit : sink.limit = none)
    (hflush : sink.flushFails = false) :
    Reports fs s sink (fs.scanFiles s.root (s.filter.apply candidates) s.markers) :=
  have h := audit_of_candidates hformatter hcandidates hlimit hflush rfl
  ⟨⟨candidates, hcandidates, rfl⟩, h.1, h.2⟩

/-- An audit of all files whose sink accepts everything writes what scanning finds. -/
theorem audit_find (hmode : s.mode = .find) (hformatter : Formatter.ofMarkers? s.format s.markers = .ok formatter)
    (hlimit : sink.limit = none) (hflush : sink.flushFails = false) {found : List Finding}
    (hfound : fs.scanFiles s.root (s.filter.apply (fs.listFiles s.root)) s.markers = found) :
    (fs.audit s sink).sink.held = sink.held ++ found.flatMap (fun f => s.format.render f ++ ['\n']) ∧
      (fs.audit s sink).result = .ok (.decide (0 < found.length) s.format) := by
  have hcandidates : fs.candidates s.mode s.root = .ok (fs.listFiles s.root) := by
    rw [hmode]
    rfl
  exact audit_of_candidates hformatter hcandidates hlimit hflush hfound

theorem root_ne_standardInput : Start.root ≠ standardInput := by decide

/-- The finding is what a marker leaves to report: a line of a file that is kept and that is not binary, from the
first marker on. -/
def Reportable (tree : Node) (s : Settings) (f : Finding) : Prop :=
  ∃ l content raw i, tree.get? l = some (.file content) ∧ Utf8.encode f.path = l.path ∧
    s.filter.isRetained f.path = true ∧ 0 ∉ content.take 8192 ∧ Scan.IsLine content f.line raw ∧
    IsLeast { i | MarkerSet.OccursAt s.markers.markers (Utf8.decode raw) i } i ∧ f.fragment = (Utf8.decode raw).drop i

/-- Files are read by the paths they are listed by, and what is found in those that are kept is reportable. -/
theorem mem_scanFiles_listFiles_iff {entries : List (Name × Node)}
    (hcurrent : fs.root.get? fs.current = some (.directory entries)) (hwell : (Node.directory entries).WellFormed)
    (htext : (Node.directory entries).HasTextNames)
    (hlength : ∀ (l : Location) content, (Node.directory entries).get? l = some (.file content) →
      (Path.join Start.root l.path).length ≤ Path.maxPath) (hroot : s.root = Start.root) {f : Finding} :
    f ∈ fs.scanFiles s.root (s.filter.apply (fs.listFiles s.root)) s.markers ↔
      Reportable (.directory entries) s f := by
  have hread : ∀ (l : Location) content, l ≠ [] → (Node.directory entries).get? l = some (.file content) →
      fs.node (Path.join s.root l.path) = .ok (.file content) := by
    intro l content hl0 hget
    rw [hroot]
    exact node_join_period hcurrent hwell hl0 hget (fun _ h => Node.noConfusion h) (hlength l content hget)
  rw [mem_scanFiles_iff, PathFilter.apply, List.mem_filter,
    mem_listFiles_iff hwell (hroot ▸ root_ne_standardInput) (hroot ▸ node_period hcurrent)]
  simp only [Scan.mem_contents_iff, Scan.finding?_eq_some_iff, MarkerSet.find?_eq_some_iff]
  constructor
  · rintro ⟨⟨⟨l, content, hl0, hget, hpath⟩, hkept⟩, content', hnode', hzero, raw, hline, _, _, i, hi, hfragment⟩
    have hencode : Utf8.encode f.path = l.path := hpath ▸ encode_relativePath htext hget
    -- the path leads back to the file it was listed for
    rw [hencode, hread l content hl0 hget] at hnode'
    cases hnode'
    exact ⟨l, content, raw, i, hget, hencode, hkept, hzero, hline, hi, hfragment⟩
  · rintro ⟨l, content, raw, i, hget, hencode, hkept, hzero, hline, hi, hfragment⟩
    have hl0 : l ≠ [] := by
      rintro rfl
      cases hget
    have hpath : relativePath l = f.path := by
      rw [← Utf8.decode_encode (relativePath l), encode_relativePath htext hget, ← hencode, Utf8.decode_encode]
    refine ⟨⟨⟨l, content, hl0, hget, hpath⟩, hkept⟩, content, ?_, hzero, raw, hline, trivial, trivial, i, hi, hfragment⟩
    rw [hencode]
    exact hread l content hl0 hget

/-- An audit of all files below the current directory writes a line for each line with a marker, once, in the order
of the paths and the lines, and nothing else. It is clean just when it writes nothing. -/
theorem audit_find_exact {o : Options} {name : Text} {entries : List (Name × Node)}
    (hcurrent : fs.root.get? fs.current = some (.directory entries)) (hwell : (Node.directory entries).WellFormed)
    (htext : (Node.directory entries).HasTextNames)
    (hlength : ∀ (l : Location) content, (Node.directory entries).get? l = some (.file content) →
      (Path.join Start.root l.path).length ≤ Path.maxPath)
    (hsettings : Settings.ofOptions o Start.root name = .ok s) (hmode : s.mode = .find)
    (hformatter : Formatter.ofMarkers? s.format s.markers = .ok formatter) (hlimit : sink.limit = none)
    (hflush : sink.flushFails = false) :
    ∃ found : List Finding,
      (fs.audit s sink).sink.held = sink.held ++ found.flatMap (fun f =>
        f.path ++ ':' :: Text.ofNat f.line ++ ':' :: (if s.format = .warn then "warning: ".toList else []) ++
          f.fragment ++ ['\n']) ∧
      found.Pairwise (fun f g => Utf8.BytesBefore f.path g.path ∨ f.path = g.path ∧ f.line < g.line) ∧
      (∀ f, f ∈ found ↔ Reportable (.directory entries) s f) ∧
      ∃ v, (fs.audit s sink).result = .ok v ∧ (v = .clean ↔ (fs.audit s sink).sink.held = sink.held) := by
  have hroot : s.root = Start.root := (Settings.ofOptions_eq_ok_iff.mp hsettings).2.2.1
  have hnode : fs.node s.root = .ok (.directory entries) := hroot ▸ node_period hcurrent
  have hlisted := pairwise_listFiles hwell htext (hroot ▸ root_ne_standardInput) hnode
  obtain ⟨found, hfound⟩ : ∃ found, fs.scanFiles s.root (s.filter.apply (fs.listFiles s.root)) s.markers = found :=
    ⟨_, rfl⟩
  obtain ⟨hheld, hresult⟩ := audit_find hmode hformatter hlimit hflush hfound
  refine ⟨found, ?_, ?_, ?_, _, hresult, ?_⟩
  · rw [hheld]
    simp only [ReportFormat.render_eq]
  · rw [← hfound]
    exact pairwise_scanFiles (hlisted.filter s.filter.isRetained)
  · intro f
    rw [← hfound]
    exact mem_scanFiles_listFiles_iff hcurrent hwell htext hlength hroot
  · rw [Verdict.decide_eq_clean_iff, hheld]
    cases found <;> simp

/-- A directory with a directory in it that holds a file with a marker on its second line. -/
def nestedEntries : List (Name × Node) :=
  [([0x64], .directory [([0x62], .file [0x78, 0x0A, 0x54, 0x4F, 0x44, 0x4F, 0x3A, 0x20, 0x79])])]

theorem nestedEntries_wellFormed : (Node.directory nestedEntries).WellFormed := by
  refine Node.forall_directory (by decide) (List.forall_mem_singleton.mpr ?_)
  exact Node.forall_directory (by decide)
    (List.forall_mem_singleton.mpr (Node.forall_directory_of_not_isDirectory rfl))

theorem nestedEntries_hasTextNames : (Node.directory nestedEntries).HasTextNames := by
  refine Node.hasTextNames_directory (List.forall_mem_singleton.mpr ⟨⟨['d'], rfl⟩, ?_⟩)
  exact Node.hasTextNames_directory
    (List.forall_mem_singleton.mpr ⟨⟨['b'], rfl⟩, Node.hasTextNames_of_not_isDirectory rfl⟩)

/-- The marker in a directory is reported with the path from the current directory. -/
theorem audit_find_exact_nested :
    ∃ s, Settings.ofOptions { mode := .find } Start.root ['m'] = .ok s ∧
      "d/b:2:TODO: y\n".toList <:+: (audit ⟨.directory nestedEntries, []⟩ s {}).sink.held := by
  have hfilter : ((PathFilter.ofLists? ['m'] [] []).toOption.map (·.isRetained "d/b".toList)) = some true := by
    decide +kernel
  cases hlists : PathFilter.ofLists? ['m'] [] [] with
  | error e =>
      rw [hlists] at hfilter
      cases hfilter
  | ok filter =>
      rw [hlists] at hfilter
      have hkept : filter.isRetained "d/b".toList = true := Option.some.inj hfilter
      have hsettings : Settings.ofOptions { mode := .find } Start.root ['m'] =
          .ok ⟨Start.root, .find, .plain, .standard, filter⟩ :=
        Settings.ofOptions_eq_ok_iff.mpr ⟨rfl, hlists, rfl, rfl, rfl⟩
      have hformatter : Formatter.ofMarkers? .plain .standard = .ok ⟨.plain, .standard⟩ :=
        Formatter.ofMarkers?_eq_ok_iff.mpr ⟨rfl, by decide +kernel⟩
      have hlength : ∀ (l : Location) content, (Node.directory nestedEntries).get? l = some (.file content) →
          (Path.join Start.root l.path).length ≤ Path.maxPath := by
        intro l content hget
        have hl0 : l ≠ [] := by
          rintro rfl
          cases hget
        have hl : l ∈ [[[0x64], [0x62]]] := (Node.mem_files_iff nestedEntries_wellFormed).mpr ⟨hl0, content, hget⟩
        rw [List.mem_singleton.mp hl]
        decide
      obtain ⟨found, hheld, _, hmem, _⟩ := @audit_find_exact ⟨.directory nestedEntries, []⟩ _ {} _ _ _ nestedEntries rfl
        nestedEntries_wellFormed nestedEntries_hasTextNames hlength hsettings rfl hformatter rfl rfl
      refine ⟨_, hsettings, ?_⟩
      have hfound : (⟨"d/b".toList, 2, "TODO: y".toList⟩ : Finding) ∈ found := by
        refine (hmem _).mpr ⟨[[0x64], [0x62]], _, [0x54, 0x4F, 0x44, 0x4F, 0x3A, 0x20, 0x79], 0, rfl, by decide, hkept,
          by decide, Scan.isLine_iff.mpr ⟨1, rfl, by decide⟩, ⟨?_, fun _ _ => Nat.zero_le _⟩, by decide⟩
        exact ⟨"TODO:".toList, List.mem_cons_of_mem _ List.mem_cons_self, by decide⟩
      obtain ⟨before, after, rfl⟩ := List.append_of_mem hfound
      rw [hheld, List.flatMap_append, List.flatMap_cons]
      exact ((List.prefix_append _ _).isInfix.trans (List.suffix_append _ _).isInfix).trans
        (List.suffix_append _ _).isInfix

end FileSystem
end MarkerAudit
