import MarkerAudit.Proofs.Report
import MarkerAudit.Proofs.Writing

/-!
# Reading a report back

Paths without colons and texts without line ends leave one way to take a report apart: at its line ends, and a line at
its first two colons. So a report tells the findings that it was written of.
-/

namespace MarkerAudit

variable {fmt : ReportFormat} {f : Finding} {fs : List Finding}

/-! ## Cutting -/

theorem Text.cut?_append {c : Char} {t : Text} (h : c ∉ t) (rest : Text) :
    Text.cut? [c] (t ++ c :: rest) = some (t, rest) := by
  have hindex : Text.findIndex? (fun rest => [c].isPrefixOf rest) (t ++ c :: rest) = some t.length := by
    refine Text.findIndex?_eq_some_iff.mpr ⟨by simp, ?_⟩
    rintro j ⟨_, hj⟩
    by_contra hlt
    obtain ⟨d, behind, hdrop⟩ := List.exists_cons_of_ne_nil (mt List.drop_eq_nil_iff.mp hlt)
    rw [List.drop_append_of_le_length (by omega), hdrop] at hj
    simp at hj
    exact h (hj ▸ List.mem_of_mem_drop (hdrop ▸ List.mem_cons_self))
  simp [Text.cut?, hindex]

/-! ## Lines -/

/-- What the format puts before the fragment. -/
def ReportFormat.lead (fmt : ReportFormat) : Text := if fmt = .warn then "warning: ".toList else []

theorem ReportFormat.render_lead (fmt : ReportFormat) (f : Finding) :
    fmt.render f = f.path ++ ':' :: (Text.ofNat f.line ++ ':' :: (fmt.lead ++ f.fragment)) := by
  rw [render_eq, ← lead, List.append_assoc, List.append_assoc, List.cons_append, List.cons_append]

/-- The finding can be told from its line: no colon and no line end in the path, and no line end in the fragment. -/
def Finding.Separable (f : Finding) : Prop := ':' ∉ f.path ∧ '\n' ∉ f.path ∧ '\n' ∉ f.fragment

theorem Finding.Separable.lineEnd_not_mem (h : f.Separable) (fmt : ReportFormat) : '\n' ∉ fmt.render f := by
  have hdisplay := Formatter.lineEnd_not_mem_display h.2.1 h.2.2
  have hlead : '\n' ∉ fmt.lead := by
    cases fmt with
    | plain => exact List.not_mem_nil
    | warn => decide
  simp only [Finding.display, List.mem_append, List.mem_cons, not_or] at hdisplay
  simp [ReportFormat.render_lead, hdisplay, hlead]

/-- The finding that a line of a report tells. -/
def ReportFormat.readLine? (fmt : ReportFormat) (line : Text) : Option Finding := do
  let (path, behind) ← Text.cut? [':'] line
  let (digits, text) ← Text.cut? [':'] behind
  let fragment ← dropPrefix? text fmt.lead
  return ⟨path, Nat.ofDigitChars 10 digits 0, fragment⟩

theorem Finding.Separable.readLine?_render (h : f.Separable) (fmt : ReportFormat) :
    fmt.readLine? (fmt.render f) = some f := by
  have hfragment : dropPrefix? (fmt.lead ++ f.fragment) fmt.lead = some f.fragment := dropPrefix?_eq_some_iff.mpr rfl
  have hline : Nat.ofDigitChars 10 (Text.ofNat f.line) 0 = f.line := Nat.ofDigitChars_ten_toDigits
  simp [ReportFormat.readLine?, ReportFormat.render_lead, Text.cut?_append h.1,
    Text.cut?_append (colon_not_mem_ofNat f.line), hfragment, hline]

/-! ## Reports -/

/-- The findings that a report tells, line by line. Nothing follows the last line end. -/
def ReportFormat.read? (fmt : ReportFormat) (report : Text) : Option (List Finding) :=
  ((segments '\n' report).dropLast).mapM fmt.readLine?

theorem segments_written (h : ∀ f ∈ fs, f.Separable) (fmt : ReportFormat) :
    segments '\n' (fmt.written fs) = fs.map fmt.render ++ [[]] := by
  induction fs with
  | nil => rfl
  | cons f fs ih =>
      obtain ⟨hf, hfs⟩ := List.forall_mem_cons.mp h
      have hrest := ih hfs
      rw [segments_eq_splitOn] at hrest ⊢
      simp [List.splitOn_append_cons_self, List.splitOn_eq_singleton (hf.lineEnd_not_mem fmt), hrest]

theorem read?_written (h : ∀ f ∈ fs, f.Separable) (fmt : ReportFormat) : fmt.read? (fmt.written fs) = some fs := by
  have hlines : (fs.map fmt.render).mapM fmt.readLine? = some fs := by
    induction fs with
    | nil => rfl
    | cons f fs ih =>
        obtain ⟨hf, hfs⟩ := List.forall_mem_cons.mp h
        simp [hf.readLine?_render fmt, ih hfs]
  rw [ReportFormat.read?, segments_written h, List.dropLast_concat, hlines]

theorem count_written (h : ∀ f ∈ fs, f.Separable) (fmt : ReportFormat) : (fmt.written fs).count '\n' = fs.length := by
  induction fs with
  | nil => rfl
  | cons f fs ih =>
      obtain ⟨hf, hfs⟩ := List.forall_mem_cons.mp h
      simp [List.count_eq_zero.mpr (hf.lineEnd_not_mem fmt), ih hfs]

/-- What has been written of findings reads as these findings, has as many line ends as the answer says, and has the
bytes of no other report. -/
theorem Sink.writeReport_uniquely_readable {s : Sink} {n : Nat} {out : Text} (hseparable : ∀ f ∈ fs, f.Separable)
    (hok : (s.writeReport fmt fs).2 = .ok n) (hout : (s.writeReport fmt fs).1.held = s.held ++ out) :
    fmt.read? out = some fs ∧ n = fs.length ∧ n = out.count '\n' ∧
      ∀ (s' : Sink) (gs : List Finding) (m : Nat) (out' : Text), (∀ g ∈ gs, g.Separable) →
        (s'.writeReport fmt gs).2 = .ok m → (s'.writeReport fmt gs).1.held = s'.held ++ out' →
        Utf8.encode out = Utf8.encode out' → fs = gs := by
  have hwritten : ∀ {s : Sink} {fs n out}, (s.writeReport fmt fs).2 = .ok n →
      (s.writeReport fmt fs).1.held = s.held ++ out → out = fmt.written fs ∧ n = fs.length := by
    intro s fs n out hok hout
    obtain ⟨hsink, hn, _⟩ := Sink.writeReport_eq_ok hok
    rw [hsink, Sink.held_after] at hout
    exact ⟨(List.append_cancel_left hout).symm, hn⟩
  obtain ⟨rfl, rfl⟩ := hwritten hok hout
  refine ⟨read?_written hseparable fmt, rfl, (count_written hseparable fmt).symm, ?_⟩
  intro s' gs m out' hseparable' hok' hout' hsame
  obtain ⟨rfl, rfl⟩ := hwritten hok' hout'
  have htext : fmt.written fs = fmt.written gs := by
    rw [← Utf8.decode_encode (fmt.written fs), hsame, Utf8.decode_encode]
  have hread := read?_written hseparable fmt
  rw [htext, read?_written hseparable' fmt] at hread
  exact (Option.some.inj hread).symm

/-- Findings whose fragments look like warnings and like lines of a report. -/
def imitations : List Finding :=
  [⟨['a'], 1, "warning: TODO:b:20:warning: x".toList⟩, ⟨['b'], 20, ":1:warning: TODO:".toList⟩]

/-- Nothing in a fragment is taken for the start of another line. -/
theorem Sink.writeReport_uniquely_readable_imitated :
    ReportFormat.warn.read? (Sink.writeReport {} .warn imitations).1.held = some imitations ∧
      (Sink.writeReport {} .warn imitations).1.held.count '\n' = 2 := by
  have hseparable : ∀ f ∈ imitations, f.Separable := by
    simp only [imitations, List.forall_mem_cons]
    exact ⟨⟨by decide, by decide, by decide⟩, ⟨by decide, by decide, by decide⟩, fun _ h => absurd h List.not_mem_nil⟩
  obtain ⟨hread, _, hcount, _⟩ := @Sink.writeReport_uniquely_readable .warn imitations {} 2
    (Sink.writeReport {} .warn imitations).1.held hseparable rfl rfl
  exact ⟨hread, hcount.symm⟩

end MarkerAudit
