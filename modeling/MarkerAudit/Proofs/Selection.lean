import MarkerAudit.Proofs.SelfRule

/-!
# What patterns select

Filtering the paths of files is filtering what is found in them, so that patterns select from the findings of an audit
without patterns and change nothing about them.
-/

namespace MarkerAudit

/-! ## Audits with and without patterns -/

namespace FileSystem

variable {fs : FileSystem} {s : Settings} {sink : Sink} {name : Text} {includes excludes candidates : List Text}

/-- An audit with patterns fails where the one without fails. Otherwise it reports what that one reports, in its order,
without the findings in files whose path is not kept; and neither reports anything in a file that is named as the tool
is. -/
theorem audit_patterns_select (hfilter : PathFilter.ofLists? name includes excludes = .ok s.filter)
    (hcandidates : fs.candidates s.mode s.root = .ok candidates) (hlimit : sink.limit = none)
    (hflush : sink.flushFails = false) :
    ∃ bare, PathFilter.ofLists? name [] [] = .ok bare ∧
      ((∃ e, (fs.audit s sink).result = .error (.formatter e) ∧
          (fs.audit { s with filter := bare } sink).result = .error (.formatter e)) ∨
        ∃ found, Reports fs { s with filter := bare } sink found ∧
          Reports fs s sink (found.filter fun f => s.filter.isRetained f.path) ∧
          ∀ f ∈ found, ¬ (f.path = name ∨ '/' :: name <:+ f.path)) := by
  obtain ⟨bare, self, hbare, hself, hkept, hsubset⟩ := PathFilter.exists_ofLists?_nil hfilter
  refine ⟨bare, hbare, ?_⟩
  cases hformatter : Formatter.ofMarkers? s.format s.markers with
  | error e =>
      exact .inl ⟨e, (audit_of_formatter_error hformatter).2.1,
        (audit_of_formatter_error (s := { s with filter := bare }) hformatter).2.1⟩
  | ok formatter =>
      -- what is kept with patterns is kept without, so that filtering twice is filtering once
      have happly : s.filter.apply candidates = (bare.apply candidates).filter s.filter.isRetained := by
        rw [PathFilter.apply, PathFilter.apply, List.filter_filter]
        refine List.filter_congr ?_
        intro path _
        cases hpath : s.filter.isRetained path with
        | true => rw [hsubset path hpath, Bool.and_true]
        | false => rw [Bool.false_and]
      refine .inr ⟨_, reports_scanFiles (s := { s with filter := bare }) hformatter hcandidates hlimit hflush, ?_, ?_⟩
      · rw [← scanFiles_filter, ← happly]
        exact reports_scanFiles hformatter hcandidates hlimit hflush
      · intro f hf
        have hmatch := (hkept f.path).mp (List.mem_filter.mp (mem_scanFiles_iff.mp hf).1).2
        exact mt (isMatch_of_selfExclusion hself).mpr (Bool.eq_false_iff.mp hmatch)

/-- A directory with two files with a marker. -/
def pairEntries : List (Name × Node) :=
  [([0x61], .file (Utf8.encode "TODO: x\n".toList)), ([0x62], .file (Utf8.encode "y\nTODO: z\n".toList))]

def pairTree : FileSystem := ⟨.directory pairEntries, []⟩

/-- Settings for every file in a directory that a filter keeps. -/
def settingsWith (filter : PathFilter) : Settings := ⟨Start.root, .find, .plain, .standard, filter⟩

/-- Patterns leave one of two findings as it is. -/
theorem audit_patterns_select_one :
    ∃ bare filter, PathFilter.ofLists? ['m'] [] [] = .ok bare ∧
      PathFilter.ofLists? ['m'] [['a'], ['b']] [['a']] = .ok filter ∧
      Reports pairTree (settingsWith bare) {} [⟨['a'], 1, "TODO: x".toList⟩, ⟨['b'], 2, "TODO: z".toList⟩] ∧
      Reports pairTree (settingsWith filter) {} [⟨['b'], 2, "TODO: z".toList⟩] := by
  have hfilter : ((PathFilter.ofLists? ['m'] [['a'], ['b']] [['a']]).toOption.map fun f =>
      (f.isRetained ['a'], f.isRetained ['b'])) = some (false, true) := by
    decide +kernel
  have hbare : ((PathFilter.ofLists? ['m'] [] []).toOption.map fun f => f.apply [['a'], ['b']]) =
      some [['a'], ['b']] := by
    decide +kernel
  have hlisted : pairTree.candidates .find Start.root = .ok [['a'], ['b']] :=
    congrArg Except.ok
      (listFiles_of_pairwise (n := .directory pairEntries) root_ne_standardInput (node_period rfl) (by decide))
  have hfound : pairTree.scanFiles Start.root [['a'], ['b']] .standard =
      [⟨['a'], 1, "TODO: x".toList⟩, ⟨['b'], 2, "TODO: z".toList⟩] := by
    decide +kernel
  obtain ⟨filter, hlists, hkept⟩ := exists_ok_of_map_toOption hfilter
  obtain ⟨hdropped, hkept⟩ := Prod.mk.inj hkept
  obtain ⟨bare, hlists', happly⟩ := exists_ok_of_map_toOption hbare
  refine ⟨bare, filter, hlists', hlists, ?_⟩
  obtain ⟨_, hbare', ⟨e, herror, _⟩ | ⟨found, hwithout, hwith, _⟩⟩ :=
    @audit_patterns_select pairTree (settingsWith filter) {} _ _ _ _ hlists hlisted rfl rfl
  · have hresult := (@audit_of_candidates pairTree (settingsWith filter) {} _ _ _
      (Formatter.ofMarkers?_standard _) hlisted rfl rfl rfl).2
    cases herror.symm.trans hresult
  · cases hlists'.symm.trans hbare'
    obtain ⟨listed, hlisted', hscanned⟩ := hwithout.scanned
    cases hlisted.symm.trans hlisted'
    have hscanned : pairTree.scanFiles Start.root (bare.apply [['a'], ['b']]) .standard = found := hscanned
    rw [happly, hfound] at hscanned
    subst hscanned
    refine ⟨hwithout, ?_⟩
    simpa [settingsWith, hdropped, hkept] using hwith

end FileSystem
end MarkerAudit
