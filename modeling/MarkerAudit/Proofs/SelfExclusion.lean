import MarkerAudit.Proofs.Outcome

/-!
# The tool itself

A start gives the tool a name that is the last component of a path. The rule for that name matches the paths that it is
the last component of, and no include takes it back, so that nothing is ever reported in a file of that name.
-/

namespace MarkerAudit

open Ascii

/-- The last component of what an audit reports a finding in is never the name that its filter was made for. -/
theorem FileSystem.Reports.getLast?_ne {fs : FileSystem} {s : Settings} {sink : Sink} {found : List Finding}
    {name : Text} {includes excludes : List Text} (h : Reports fs s sink found)
    (hfilter : PathFilter.ofLists? name includes excludes = .ok s.filter) (hname : '/' ∉ name) :
    ∀ f ∈ found, (segments '/' f.path).getLast? ≠ some name := by
  intro f hf hlast
  obtain ⟨candidates, _, rfl⟩ := h.scanned
  have hkept := (List.mem_filter.mp (mem_scanFiles_iff.mp hf).1).2
  rw [PathFilter.not_isRetained_of_isNamed hfilter ((isNamed_iff_getLast? hname).mpr hlast)] at hkept
  cases hkept

/-- A start gives a name that is not empty and one component of a path: what the last component of the path that it was
started by reads as, or the tool's own if that is `..` or there is none. The rule for a name is there unless the name is
too long, whatever characters it holds, and it matches just the paths that are the name or end in it behind a slash. A
filter for the name, whatever its patterns, keeps none of these, and without patterns it keeps all others. So a run
reports nothing in a file that is named as the run was started. -/
theorem selfExclusion_exact :
    (∀ argv0, invokedName argv0 ≠ [] ∧ '/' ∉ invokedName argv0) ∧
    (∀ argv0 n, IsLastComponent n argv0 →
      invokedName argv0 = if n = [period, period] then toolName else Utf8.decode n) ∧
    (∀ argv0, (∀ n, ¬ IsLastComponent n argv0) → invokedName argv0 = toolName) ∧
    (∀ name, ((∃ self, Rule.selfExclusion name = .ok self) ↔ Utf8.size name ≤ 327668) ∧
      ∀ self, Rule.selfExclusion name = .ok self →
        ∀ path, self.isMatch path = true ↔ path = name ∨ '/' :: name <:+ path) ∧
    (∀ name includes excludes f, PathFilter.ofLists? name includes excludes = .ok f →
      (∀ path, path = name ∨ '/' :: name <:+ path → f.isRetained path = false) ∧
      (includes = [] → excludes = [] →
        ∀ paths, f.apply paths = paths.filter fun p => ¬ (p = name ∨ '/' :: name <:+ p))) ∧
    ∀ (s : Start) (o : Options), Options.ofArgs s.args = .ok o →
      s.run.output = [] ∨ ∃ settings found, Settings.ofOptions o Start.root (invokedName s.name) = .ok settings ∧
        FileSystem.Reports s.fileSystem settings {} found ∧
        s.run.output = found.flatMap (fun f => o.format.render f ++ ['\n']) ∧
        ∀ f ∈ found, (segments '/' f.path).getLast? ≠ some (invokedName s.name) := by
  refine ⟨invokedName_isComponent, fun _ _ => invokedName_of_isLastComponent, fun _ => invokedName_of_forall_not,
    ?_, ?_, ?_⟩
  · intro name
    refine ⟨?_, fun self hself path => isMatch_of_selfExclusion hself⟩
    rw [selfExclusion_eq]
    split
    · simp [*]
    · simp [*]
  · intro name includes excludes f h
    refine ⟨fun path => PathFilter.not_isRetained_of_isNamed h, ?_⟩
    rintro rfl rfl
    exact PathFilter.apply_of_no_patterns h
  · intro s o hargs
    have hrun : s.run = s.runWith o := by
      simp only [Start.run, hargs]
    rw [hrun]
    by_cases hcrashes : s.Crashes o
    · exact .inl (Start.runWith_of_crashes hcrashes).2.1
    by_cases hfails : s.Fails o
    · exact .inl (Start.runWith_of_fails hfails).2.1
    · obtain ⟨settings, found, hsettings, hreports, _, _, houtput, _⟩ := Start.runWith_reports ⟨hcrashes, hfails⟩
      have hfilter := (Settings.ofOptions_eq_ok_iff.mp hsettings).2.1
      exact .inr ⟨settings, found, hsettings, hreports, houtput,
        hreports.getLast?_ne hfilter (invokedName_isComponent s.name).2⟩

/-- A dot in the name stands for itself, and an include that matches the tool does not bring it back. -/
theorem selfExclusion_exact_dotted :
    ∃ f, PathFilter.ofLists? "a.b".toList [['a']] [] = .ok f ∧ f.isRetained "x/a.b".toList = false ∧
      f.isRetained "x/acb".toList = true := by
  have hkept : ((PathFilter.ofLists? "a.b".toList [['a']] []).toOption.map fun f => f.isRetained "x/acb".toList) =
      some true := by
    decide +kernel
  obtain ⟨f, hlists, hkept⟩ := exists_ok_of_map_toOption hkept
  exact ⟨f, hlists, (selfExclusion_exact.2.2.2.2.1 _ _ _ f hlists).1 _ (.inr ⟨['x'], rfl⟩), hkept⟩

end MarkerAudit
