import MarkerAudit.Proofs.SelfRule

/-!
# How runs end

The format decides what findings cost, not which there are. A run ends with 2 just when a stage fails, before anything
is written, and with 1 just when findings are reported plainly. It is broken off if the tool is started by a name that
is too long for a rule, and it waits for the pipes among its files.
-/

namespace MarkerAudit

/-- The pattern of a written line is refused or accepted whatever the format. -/
theorem Formatter.ofMarkers?_alike (ms : MarkerSet) :
    (∃ e, ∀ fmt, ofMarkers? fmt ms = .error e) ∨ ∀ fmt, ofMarkers? fmt ms = .ok ⟨fmt, ms⟩ := by
  unfold ofMarkers?
  cases Pattern.ofText (linePattern ms) with
  | error e => exact .inl ⟨e, fun _ => rfl⟩
  | ok _ => exact .inr fun _ => rfl

/-! ## Both formats -/

namespace FileSystem

/-- An audit that reports warnings fails where one that reports plainly does, with the same error. Otherwise both find
the same, and a warning is the plain line with a word behind the path and the number of the line. -/
theorem audit_formats_agree {plain warn : Sink} (hplain : plain.limit = none) (hplain' : plain.flushFails = false)
    (hwarn : warn.limit = none) (hwarn' : warn.flushFails = false) (fs : FileSystem) (s : Settings) :
    (∃ e, (fs.audit { s with format := .plain } plain).result = .error e ∧
        (fs.audit { s with format := .warn } warn).result = .error e) ∨
      ∃ candidates found v w, fs.candidates s.mode s.root = .ok candidates ∧
        fs.scanFiles s.root (s.filter.apply candidates) s.markers = found ∧
        (fs.audit { s with format := .plain } plain).result = .ok v ∧
        (fs.audit { s with format := .warn } warn).result = .ok w ∧
        (fs.audit { s with format := .plain } plain).sink.held =
          plain.held ++ found.flatMap (fun f => f.head ++ f.fragment ++ ['\n']) ∧
        (fs.audit { s with format := .warn } warn).sink.held =
          warn.held ++ found.flatMap (fun f => f.head ++ warningWord ++ f.fragment ++ ['\n']) ∧
        (found = [] ∧ v = .clean ∧ w = .clean ∨
          found ≠ [] ∧ v = .findings ∧ v.code = 1 ∧ w = .advisory ∧ w.code = 0) := by
  rcases Formatter.ofMarkers?_alike s.markers with ⟨e, herror⟩ | hok
  · have hresult : ∀ fmt sink, (fs.audit { s with format := fmt } sink).result = .error (.formatter e) := by
      intro fmt sink
      exact (@audit_of_formatter_error fs { s with format := fmt } sink e (herror fmt)).2.1
    exact .inl ⟨_, hresult .plain plain, hresult .warn warn⟩
  cases hcandidates : fs.candidates s.mode s.root with
  | error e =>
      have hresult : ∀ fmt sink, (fs.audit { s with format := fmt } sink).result = .error (.listing e) := by
        intro fmt sink
        exact (@audit_of_listing_error fs { s with format := fmt } sink _ e (hok fmt) hcandidates).2.1
      exact .inl ⟨_, hresult .plain plain, hresult .warn warn⟩
  | ok candidates =>
      obtain ⟨found, hfound⟩ : ∃ found, fs.scanFiles s.root (s.filter.apply candidates) s.markers = found := ⟨_, rfl⟩
      obtain ⟨hheld, hresult⟩ := @audit_of_candidates fs { s with format := .plain } plain _ candidates found (hok _)
        hcandidates hplain hplain' hfound
      obtain ⟨hheld', hresult'⟩ := @audit_of_candidates fs { s with format := .warn } warn _ candidates found (hok _)
        hcandidates hwarn hwarn' hfound
      refine .inr ⟨candidates, found, _, _, rfl, hfound, hresult, hresult', ?_, ?_, ?_⟩
      · simpa only [ReportFormat.render_plain] using hheld
      · simpa only [ReportFormat.render_warn, List.append_assoc] using hheld'
      · cases found with
        | nil => exact .inl ⟨rfl, rfl, rfl⟩
        | cons f found => exact .inr ⟨List.cons_ne_nil _ _, rfl, rfl, rfl, rfl⟩

/-- A marker in a directory fails the run that reports it plainly and not the one that warns of it, although the latter
starts from a sink that holds a text. -/
theorem audit_formats_agree_nested :
    (audit ⟨.directory nestedEntries, []⟩ ⟨Start.root, .find, .plain, .standard, ⟨[]⟩⟩ {}).result = .ok .findings ∧
      (audit ⟨.directory nestedEntries, []⟩ ⟨Start.root, .find, .warn, .standard, ⟨[]⟩⟩ { held := ['x'] }).result =
        .ok .advisory := by
  have hfound : scanFiles ⟨.directory nestedEntries, []⟩ Start.root
      (PathFilter.apply ⟨[]⟩ (listFiles ⟨.directory nestedEntries, []⟩ Start.root)) .standard ≠ [] := by
    decide +kernel
  rcases @audit_formats_agree {} { held := ['x'] } rfl rfl rfl rfl ⟨.directory nestedEntries, []⟩
      ⟨Start.root, .find, .plain, .standard, ⟨[]⟩⟩ with
    ⟨e, herror, _⟩ | ⟨_, found, v, w, ⟨rfl⟩, hscan, hv, hw, _, _, hverdicts⟩
  · rw [(@audit_find ⟨.directory nestedEntries, []⟩ ⟨Start.root, .find, .plain, .standard, ⟨[]⟩⟩ {} _ rfl
      (Formatter.ofMarkers?_standard _) rfl rfl _ rfl).2] at herror
    cases herror
  · rcases hverdicts with ⟨hnone, _, _⟩ | ⟨_, rfl, _, rfl, _⟩
    · exact absurd (hscan.trans hnone) hfound
    · exact ⟨hv, hw⟩

end FileSystem

/-! ## Exit statuses -/

theorem FileSystem.scanFiles_ne_nil_iff {fs : FileSystem} {root : Bytes} {paths : List Text} {ms : MarkerSet} :
    fs.scanFiles root paths ms ≠ [] ↔ ∃ path ∈ paths, ∃ found, fs.scanFile root path ms = .ok found ∧ found ≠ [] := by
  rw [scanFiles, Ne, List.flatMap_eq_nil_iff]
  push Not
  refine exists_congr fun path => and_congr_right fun _ => ?_
  cases fs.scanFile root path ms with
  | error e => simp [Except.toOption]
  | ok found => simp [Except.toOption]

/-- The options give no settings for want of a rule for the tool itself just when their markers are accepted and the
rule is refused. -/
theorem Settings.ofOptions_eq_own_iff {o : Options} {root : Bytes} {name : Text} :
    (∃ e, ofOptions o root name = .error (.pattern (.own e))) ↔
      (∃ ms, markersOf o.keywords = .ok ms) ∧ ∃ e, Rule.selfExclusion name = .error e := by
  unfold ofOptions PathFilter.ofLists?
  cases markersOf o.keywords with
  | error e => simp
  | ok ms =>
      cases Rule.selfExclusion name with
      | error e => simp
      | ok self =>
          cases PathFilter.rulesOf .drop o.excludes with
          | error e => simp
          | ok dropping =>
              cases PathFilter.rulesOf .keep o.includes with
              | error e => simp
              | ok keeping => simp

namespace Start

variable {s : Start} {o : Options} {settings : Settings}

/-- The run is broken off: the keywords are accepted, but there is no rule for the tool itself, which is asserted never
to happen. -/
def Crashes (s : Start) (o : Options) : Prop :=
  (∃ ms, Settings.markersOf o.keywords = .ok ms) ∧ ∃ e, Rule.selfExclusion (invokedName s.name) = .error e

/-- A stage of the run fails: the options give no settings, the pattern of a written line is refused, or files cannot
be listed. -/
def Fails (s : Start) (o : Options) : Prop :=
  (¬ s.Crashes o ∧ ∃ e, Settings.ofOptions o root (invokedName s.name) = .error e) ∨
    ∃ settings, Settings.ofOptions o root (invokedName s.name) = .ok settings ∧
      ((∃ e, Formatter.ofMarkers? settings.format settings.markers = .error e) ∨
        ∃ e, s.fileSystem.candidates settings.mode settings.root = .error e)

/-- No stage of the run fails, nor is it broken off. -/
def Completes (s : Start) (o : Options) : Prop := ¬ s.Crashes o ∧ ¬ s.Fails o

/-- Something is found in a file that is listed and kept. -/
def Finds (s : Start) (o : Options) : Prop :=
  ∃ settings candidates, Settings.ofOptions o root (invokedName s.name) = .ok settings ∧
    s.fileSystem.candidates settings.mode settings.root = .ok candidates ∧
    ∃ path ∈ candidates, settings.filter.isRetained path = true ∧
      ∃ found, s.fileSystem.scanFile settings.root path settings.markers = .ok found ∧ found ≠ []

/-- The path is listed and kept, and leads to a pipe. -/
def MeetsPipe (s : Start) (o : Options) (path : Text) : Prop :=
  ∃ settings candidates, Settings.ofOptions o root (invokedName s.name) = .ok settings ∧
    s.fileSystem.candidates settings.mode settings.root = .ok candidates ∧
    path ∈ candidates ∧ settings.filter.isRetained path = true ∧
      s.fileSystem.node (Path.join settings.root (Utf8.encode path)) = .ok (.special .pipe)

theorem fails_iff (hsettings : Settings.ofOptions o root (invokedName s.name) = .ok settings) :
    s.Fails o ↔ (∃ e, Formatter.ofMarkers? settings.format settings.markers = .error e) ∨
      ∃ e, s.fileSystem.candidates settings.mode settings.root = .error e := by
  simp [Fails, hsettings]

theorem finds_iff {candidates : List Text}
    (hsettings : Settings.ofOptions o root (invokedName s.name) = .ok settings)
    (hcandidates : s.fileSystem.candidates settings.mode settings.root = .ok candidates) :
    s.Finds o ↔
      s.fileSystem.scanFiles settings.root (settings.filter.apply candidates) settings.markers ≠ [] := by
  simp [Finds, hsettings, hcandidates, FileSystem.scanFiles_ne_nil_iff, PathFilter.apply, and_assoc]

theorem meetsPipe_iff {candidates : List Text} {path : Text}
    (hsettings : Settings.ofOptions o root (invokedName s.name) = .ok settings)
    (hcandidates : s.fileSystem.candidates settings.mode settings.root = .ok candidates) :
    s.MeetsPipe o path ↔
      path ∈ (settings.filter.apply candidates).filter (s.fileSystem.waitsAt settings.root) := by
  simp [MeetsPipe, hsettings, hcandidates, FileSystem.waitsAt_iff, PathFilter.apply, and_comm]

/-- Where a run is broken off, that is all there is to it. -/
theorem runWith_of_crashes (h : s.Crashes o) :
    (s.runWith o).code = 101 ∧ (s.runWith o).output = [] ∧ (s.runWith o).waits = [] := by
  obtain ⟨e, herror⟩ := (@Settings.ofOptions_eq_own_iff o root _).mpr h
  simp only [runWith, herror]
  exact ⟨rfl, rfl, rfl⟩

/-- A complaint about options is no reason to break off. -/
theorem refusal_of_ne_own {e : SettingsError} (h : ∀ own, e ≠ .pattern (.own own)) :
    (refusal e).code = 2 ∧ (refusal e).output = [] ∧ (refusal e).waits = [] := by
  match e with
  | .markers _ => exact ⟨rfl, rfl, rfl⟩
  | .pattern (.asked _) => exact ⟨rfl, rfl, rfl⟩
  | .pattern (.own own) => exact absurd rfl (h own)

/-- A run that fails writes nothing and waits for nothing. -/
theorem runWith_of_fails (h : s.Fails o) :
    (s.runWith o).code = 2 ∧ (s.runWith o).output = [] ∧ (s.runWith o).waits = [] := by
  rcases h with ⟨hcrashes, e, herror⟩ | ⟨settings, hsettings, hstage⟩
  · simp only [runWith, herror]
    refine refusal_of_ne_own fun own hown => hcrashes ?_
    exact (@Settings.ofOptions_eq_own_iff o root _).mp ⟨own, hown ▸ herror⟩
  · cases hformatter : Formatter.ofMarkers? settings.format settings.markers with
    | error e =>
        obtain ⟨hsink, hresult, hwaits⟩ := @FileSystem.audit_of_formatter_error s.fileSystem settings {} e hformatter
        simp only [runWith, hsettings, hresult, hsink, hwaits]
        exact ⟨rfl, trivial, trivial⟩
    | ok formatter =>
        obtain ⟨e, hcandidates⟩ := hstage.resolve_left (by simp [hformatter])
        obtain ⟨hsink, hresult, hwaits⟩ :=
          @FileSystem.audit_of_listing_error s.fileSystem settings {} _ e hformatter hcandidates
        simp only [runWith, hsettings, hresult, hsink, hwaits]
        exact ⟨rfl, trivial, trivial⟩

/-- The output and the status of a run that completes come from what an audit with its settings reports, and it waits
for the pipes that the audit meets. -/
theorem runWith_reports (h : s.Completes o) :
    ∃ settings found, Settings.ofOptions o root (invokedName s.name) = .ok settings ∧
        FileSystem.Reports s.fileSystem settings {} found ∧ (s.Finds o ↔ found ≠ []) ∧
        (s.runWith o).code = (Verdict.decide (0 < found.length) o.format).code ∧
        (s.runWith o).output = found.flatMap (fun f => o.format.render f ++ ['\n']) ∧
        ∀ path, path ∈ (s.runWith o).waits ↔ s.MeetsPipe o path := by
  obtain ⟨hcrashes, hfails⟩ := h
  obtain ⟨settings, hsettings⟩ : ∃ settings, Settings.ofOptions o root (invokedName s.name) = .ok settings := by
    cases hsettings : Settings.ofOptions o root (invokedName s.name) with
    | error e => exact absurd (.inl ⟨hcrashes, e, hsettings⟩) hfails
    | ok settings => exact ⟨settings, rfl⟩
  have hformat : settings.format = o.format := (Settings.ofOptions_eq_ok_iff.mp hsettings).2.2.2.2
  obtain ⟨hformatter, hcandidates⟩ := not_or.mp (mt (fails_iff hsettings).mpr hfails)
  obtain ⟨formatter, hformatter⟩ := exists_ok_of_forall_ne_error (not_exists.mp hformatter)
  obtain ⟨candidates, hcandidates⟩ := exists_ok_of_forall_ne_error (not_exists.mp hcandidates)
  have hreports := @FileSystem.reports_scanFiles s.fileSystem settings {} _ _ hformatter hcandidates rfl rfl
  have hwaits := @FileSystem.waits_of_candidates s.fileSystem settings {} _ _ hformatter hcandidates
  refine ⟨settings, _, hsettings, hreports, finds_iff hsettings hcandidates, ?_, ?_, ?_⟩
  · simp only [runWith, hsettings, hreports.result, hformat]
  · simp only [runWith, hsettings, hreports.result, hreports.held, hformat, List.nil_append]
  · intro path
    simp only [runWith, hsettings, hreports.result, hwaits]
    exact (meetsPipe_iff hsettings hcandidates).symm

end Start
end MarkerAudit
