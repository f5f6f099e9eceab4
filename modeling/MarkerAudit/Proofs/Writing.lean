import MarkerAudit.Report

/-!
# What a sink holds

Findings are written one after another, each as its text and then a line end, until a write is refused. A sink with a
limit so holds the whole report, or what stands before the first write that it has no room for.
-/

namespace MarkerAudit

variable {fmt : ReportFormat}

/-! ## Reports -/

/-- The findings as a report, each on a line of its own. -/
def ReportFormat.written (fmt : ReportFormat) (fs : List Finding) : Text :=
  fs.flatMap fun f => fmt.render f ++ ['\n']

@[simp] theorem ReportFormat.written_nil : fmt.written [] = [] := rfl

@[simp] theorem ReportFormat.written_cons (f : Finding) (fs : List Finding) :
    fmt.written (f :: fs) = fmt.render f ++ '\n' :: fmt.written fs := by
  simp [written]

@[simp] theorem ReportFormat.written_append (fs gs : List Finding) :
    fmt.written (fs ++ gs) = fmt.written fs ++ fmt.written gs := by
  simp [written]

theorem ReportFormat.written_eq {f : Finding} {fs : List Finding} {k : Nat} (h : fs[k]? = some f) :
    fmt.written fs = fmt.written (fs.take k) ++ (fmt.render f ++ '\n' :: fmt.written (fs.drop (k + 1))) := by
  obtain ⟨hk, rfl⟩ := List.getElem?_eq_some_iff.mp h
  rw [← written_cons, ← List.drop_eq_getElem_cons, ← written_append, List.take_append_drop]

theorem Utf8.size_append (t u : Text) : size (t ++ u) = size t + size u := by
  induction t with
  | nil => simp [size, total]
  | cons c t ih =>
      simp only [size, total, List.map_cons, List.cons_append, List.foldr_cons] at ih ⊢
      omega

namespace Sink

variable {s : Sink} {t u : Text} {f : Finding} {fs : List Finding}

/-! ## One write -/

/-- The limit leaves room for a text. -/
def Fits (s : Sink) (t : Text) : Prop := ∀ limit ∈ s.limit, s.used + Utf8.size t ≤ limit

/-- The sink once it has accepted a text. -/
def after (s : Sink) (t : Text) : Sink := { s with held := s.held ++ t, used := s.used + Utf8.size t }

@[simp] theorem held_after : (s.after t).held = s.held ++ t := rfl

@[simp] theorem flushFails_after : (s.after t).flushFails = s.flushFails := rfl

@[simp] theorem after_nil : s.after [] = s := by
  simp [after, Utf8.size, total]

@[simp] theorem after_after : (s.after t).after u = s.after (t ++ u) := by
  simp [after, Utf8.size_append, Nat.add_assoc]

@[simp] theorem fits_after : (s.after t).Fits u ↔ s.Fits (t ++ u) := by
  simp [Fits, after, Utf8.size_append, Nat.add_assoc]

theorem Fits.of_append (h : s.Fits (t ++ u)) : s.Fits t := by
  intro limit hlimit
  have hboth := h limit hlimit
  rw [Utf8.size_append] at hboth
  omega

theorem fits_of_no_limit (hlimit : s.limit = none) (t : Text) : s.Fits t := by
  simp [Fits, hlimit]

theorem write_of_fits (h : s.Fits t) : s.write t = .ok (s.after t) := by
  cases hlimit : s.limit with
  | none => simp [write, after, hlimit]
  | some limit =>
      have hroom := h limit hlimit
      simp [write, after, hlimit, Nat.not_lt.mpr hroom]

theorem write_of_not_fits (h : ¬ s.Fits t) : s.write t = .error .limitReached := by
  cases hlimit : s.limit with
  | none => simp [Fits, hlimit] at h
  | some limit =>
      simp only [Fits, hlimit, Option.mem_def, Option.some.injEq, forall_eq', Nat.not_le] at h
      simp [write, hlimit, h]

/-! ## Many writes -/

/-- What is written of findings is broken off behind the lines of the first ones: the text of the next finding has no
room there, or its text is written and the line end has none. -/
def BreaksOff (s : Sink) (fmt : ReportFormat) (fs : List Finding) (k : Nat) (t : Text) : Prop :=
  ∃ f, fs[k]? = some f ∧
    (t = fmt.written (fs.take k) ∧ ¬ s.Fits (t ++ fmt.render f) ∨
      t = fmt.written (fs.take k) ++ fmt.render f ∧ ¬ s.Fits (t ++ ['\n']))

theorem BreaksOff.later {k : Nat} (h : (s.after (fmt.render f ++ ['\n'])).BreaksOff fmt fs k t) :
    s.BreaksOff fmt (f :: fs) (k + 1) (fmt.render f ++ '\n' :: t) := by
  obtain ⟨g, hg, hcases⟩ := h
  simp only [fits_after] at hcases
  refine ⟨g, hg, ?_⟩
  rcases hcases with ⟨rfl, hnot⟩ | ⟨rfl, hnot⟩
  · exact .inl ⟨by simp, by simpa using hnot⟩
  · exact .inr ⟨by simp, by simpa using hnot⟩

theorem BreaksOff.isPrefix {k : Nat} (h : s.BreaksOff fmt fs k t) : t <+: fmt.written fs := by
  obtain ⟨f, hf, hcases⟩ := h
  rw [ReportFormat.written_eq hf]
  rcases hcases with ⟨rfl, _⟩ | ⟨rfl, _⟩
  · exact List.prefix_append _ _
  · exact ⟨_, List.append_assoc _ _ _⟩

theorem BreaksOff.not_fits {k : Nat} (h : s.BreaksOff fmt fs k t) : ¬ s.Fits (fmt.written fs) := by
  obtain ⟨f, hf, hcases⟩ := h
  rw [ReportFormat.written_eq hf]
  intro hfits
  rcases hcases with ⟨rfl, hnot⟩ | ⟨rfl, hnot⟩
  · rw [← List.append_assoc] at hfits
    exact hnot hfits.of_append
  · rw [← List.append_assoc, ← List.singleton_append, ← List.append_assoc] at hfits
    exact hnot hfits.of_append

/-- All findings are written, or the first write that has no room breaks the report off. -/
theorem writeAll_cases (s : Sink) (fmt : ReportFormat) (fs : List Finding) :
    (s.Fits [] → s.Fits (fmt.written fs)) ∧ s.writeAll fmt fs = (s.after (fmt.written fs), none) ∨
      ∃ k t, s.BreaksOff fmt fs k t ∧ s.writeAll fmt fs = (s.after t, some .limitReached) := by
  induction fs generalizing s with
  | nil => exact .inl ⟨id, by simp [writeAll]⟩
  | cons f fs ih =>
      by_cases htext : s.Fits (fmt.render f)
      · by_cases hend : s.Fits (fmt.render f ++ ['\n'])
        · have hwrite : s.writeAll fmt (f :: fs) = (s.after (fmt.render f ++ ['\n'])).writeAll fmt fs := by
            simp [writeAll, write_of_fits htext, write_of_fits (fits_after.mpr hend)]
          rw [hwrite]
          rcases ih (s.after (fmt.render f ++ ['\n'])) with ⟨hfits, hrun⟩ | ⟨k, t, hbreaks, hrun⟩
          · refine .inl ⟨fun _ => ?_, ?_⟩
            · simpa using hfits (by simpa using hend)
            · simp [hrun]
          · exact .inr ⟨k + 1, _, hbreaks.later, by simp [hrun]⟩
        · refine .inr ⟨0, fmt.render f, ⟨f, rfl, .inr ⟨rfl, hend⟩⟩, ?_⟩
          simp [writeAll, write_of_fits htext, write_of_not_fits (mt fits_after.mp hend)]
      · refine .inr ⟨0, [], ⟨f, rfl, .inl ⟨rfl, htext⟩⟩, ?_⟩
        simp [writeAll, write_of_not_fits htext]

/-- The whole report is written and then flushed, or it is broken off. -/
theorem writeReport_cases (s : Sink) (fmt : ReportFormat) (fs : List Finding) :
    (s.Fits [] → s.Fits (fmt.written fs)) ∧ s.writeReport fmt fs =
        (s.after (fmt.written fs), if s.flushFails then .error .flushRefused else .ok fs.length) ∨
      ∃ k t, s.BreaksOff fmt fs k t ∧ s.writeReport fmt fs = (s.after t, .error .limitReached) := by
  rcases writeAll_cases s fmt fs with ⟨hfits, hrun⟩ | ⟨k, t, hbreaks, hrun⟩
  · refine .inl ⟨hfits, ?_⟩
    rw [writeReport, hrun]
    rfl
  · refine .inr ⟨k, t, hbreaks, ?_⟩
    rw [writeReport, hrun]

theorem writeReport_of_fits (h : s.Fits (fmt.written fs)) (hflush : s.flushFails = false) :
    s.writeReport fmt fs = (s.after (fmt.written fs), .ok fs.length) := by
  rcases writeReport_cases s fmt fs with ⟨_, hrun⟩ | ⟨k, t, hbreaks, _⟩
  · simp [hrun, hflush]
  · exact absurd h hbreaks.not_fits

theorem writeReport_eq_ok {n : Nat} (h : (s.writeReport fmt fs).2 = .ok n) :
    (s.writeReport fmt fs).1 = s.after (fmt.written fs) ∧ n = fs.length ∧ s.flushFails = false ∧
      (s.Fits [] → s.Fits (fmt.written fs)) := by
  rcases writeReport_cases s fmt fs with ⟨hfits, hrun⟩ | ⟨k, t, _, hrun⟩
  · cases hflush : s.flushFails with
    | false =>
        simp [hrun, hflush] at h
        exact ⟨by rw [hrun], h.symm, rfl, hfits⟩
    | true => simp [hrun, hflush] at h
  · simp [hrun] at h

theorem writeReport_eq_error {e : SinkError} (h : (s.writeReport fmt fs).2 = .error e) :
    e = .flushRefused ∧ s.flushFails = true ∧ (s.writeReport fmt fs).1 = s.after (fmt.written fs) ∨
      e = .limitReached ∧ ∃ k t, s.BreaksOff fmt fs k t ∧ (s.writeReport fmt fs).1 = s.after t := by
  rcases writeReport_cases s fmt fs with ⟨_, hrun⟩ | ⟨k, t, hbreaks, hrun⟩
  · cases hflush : s.flushFails with
    | false => simp [hrun, hflush] at h
    | true =>
        simp [hrun, hflush] at h
        exact .inl ⟨h.symm, rfl, by rw [hrun]⟩
  · simp [hrun] at h
    exact .inr ⟨h.symm, k, t, hbreaks, by rw [hrun]⟩

/-- A report is accepted just when the limit leaves room for the whole of it and flushing succeeds; then it has been
written and its findings have been counted. Otherwise the sink holds the lines of the first findings, and perhaps the
text of the next one without its line end: all findings if just flushing fails, and else what stands before the first
write that has no room. -/
theorem writeReport_up_to_limit (hroom : s.Fits []) (fmt : ReportFormat) (fs : List Finding) :
    ((∃ n, (s.writeReport fmt fs).2 = .ok n) ↔ s.Fits (fmt.written fs) ∧ s.flushFails = false) ∧
      (∀ n, (s.writeReport fmt fs).2 = .ok n →
        n = fs.length ∧ (s.writeReport fmt fs).1.held = s.held ++ fmt.written fs) ∧
      ∀ e, (s.writeReport fmt fs).2 = .error e →
        (∃ why, e.message = "Failed to write report: ".toList ++ why) ∧
          ∃ k part, (s.writeReport fmt fs).1.held = s.held ++ (fmt.written (fs.take k) ++ part) ∧
            fmt.written (fs.take k) ++ part <+: fmt.written fs ∧
            (e = .flushRefused ∧ s.flushFails = true ∧ k = fs.length ∧ part = [] ∨
              e = .limitReached ∧ ∃ f, fs[k]? = some f ∧
                (part = [] ∧ ¬ s.Fits (fmt.written (fs.take k) ++ fmt.render f) ∨
                  part = fmt.render f ∧ ¬ s.Fits (fmt.written (fs.take k) ++ fmt.render f ++ ['\n']))) := by
  refine ⟨⟨?_, ?_⟩, ?_, ?_⟩
  · rintro ⟨n, hok⟩
    obtain ⟨_, _, hflush, hfits⟩ := writeReport_eq_ok hok
    exact ⟨hfits hroom, hflush⟩
  · rintro ⟨hfits, hflush⟩
    exact ⟨fs.length, by rw [writeReport_of_fits hfits hflush]⟩
  · intro n hok
    obtain ⟨hsink, hn, _⟩ := writeReport_eq_ok hok
    exact ⟨hn, by rw [hsink, held_after]⟩
  · intro e herror
    refine ⟨⟨_, rfl⟩, ?_⟩
    rcases writeReport_eq_error herror with ⟨rfl, hflush, hsink⟩ | ⟨rfl, k, t, hbreaks, hsink⟩
    · exact ⟨fs.length, [], by simp [hsink], by simp, .inl ⟨rfl, hflush, rfl, rfl⟩⟩
    · have hprefix := hbreaks.isPrefix
      obtain ⟨f, hf, ⟨rfl, hnot⟩ | ⟨rfl, hnot⟩⟩ := hbreaks
      · exact ⟨k, [], by simp [hsink], by simpa using hprefix, .inr ⟨rfl, f, hf, .inl ⟨rfl, hnot⟩⟩⟩
      · exact ⟨k, fmt.render f, by simp [hsink], hprefix, .inr ⟨rfl, f, hf, .inr ⟨rfl, hnot⟩⟩⟩

/-- A line without room ends the report, although there is room for the line behind it. -/
theorem writeReport_up_to_limit_later_line :
    Fits ⟨[], 0, some 6, false⟩ [] ∧
      (∀ n, (writeReport ⟨[], 0, some 6, false⟩ .plain [⟨['a'], 1, "TODO: x".toList⟩, ⟨['b'], 2, ['y']⟩]).2 ≠ .ok n) ∧
      (writeReport ⟨[], 0, some 6, false⟩ .plain [⟨['a'], 1, "TODO: x".toList⟩, ⟨['b'], 2, ['y']⟩]).1.held = [] ∧
      Fits ⟨[], 0, some 6, false⟩ (ReportFormat.plain.written [⟨['b'], 2, ['y']⟩]) := by
  have hroom : Fits ⟨[], 0, some 6, false⟩ [] := by
    rintro _ ⟨rfl⟩
    decide
  obtain ⟨hok, _, _⟩ := writeReport_up_to_limit hroom .plain [⟨['a'], 1, "TODO: x".toList⟩, ⟨['b'], 2, ['y']⟩]
  refine ⟨hroom, ?_, by decide, ?_⟩
  · intro n hn
    exact absurd ((hok.mp ⟨n, hn⟩).1 6 rfl) (by decide)
  · rintro _ ⟨rfl⟩
    decide

end Sink
end MarkerAudit
