import MarkerAudit.Proofs.Options
import MarkerAudit.Proofs.Pattern.Size

/-!
# Audits that fail on accepted keywords

Keywords are accepted by the size of the pattern that looks for them. An audit also needs the pattern of a written line,
in either format, and fails where that is too large. Both sizes follow from the keywords, and so does which accepted
keywords give settings that every audit fails on.
-/

namespace MarkerAudit

open Pattern (Direction searchOverhead lineOverhead sizeLimit)
open Pattern.Expr (plain alternation manyTexts)

/-- The pattern that looks for the keywords is accepted: their expression leaves room for its other parts, or there are
very many of them. -/
def RoomToSearch (keywords : List Text) : Prop :=
  (manyTexts ≤ keywords.length ∧ ∃ k ∈ keywords, k.length ≠ 1) ∨
    ∀ d, (alternation (keywords.map plain)).size d + searchOverhead d ≤ sizeLimit

/-- The pattern of a written line is accepted: the expression of the keywords leaves room for its other parts. -/
def RoomToRewrite (keywords : List Text) : Prop :=
  ∀ d, (alternation (keywords.map plain)).size d + lineOverhead d ≤ sizeLimit

/-- The pattern of a written line asks for more room than the one that looks for the keywords. -/
theorem RoomToRewrite.roomToSearch {keywords : List Text} (h : RoomToRewrite keywords) : RoomToSearch keywords :=
  .inr fun d => (Nat.add_le_add_left (Nat.le_of_lt (Pattern.searchOverhead_lt_lineOverhead d)) _).trans (h d)

/-! ## Acceptance -/

theorem MarkerSet.ofList?_of_room {keywords : List Text} (hne : keywords ≠ []) (hnil : [] ∉ keywords)
    (h : RoomToSearch keywords) : ofList? keywords = .ok ⟨keywords, hne, hnil⟩ :=
  ofList?_of_fits hne hnil (Pattern.parse_alternation hne hnil) (Pattern.fits_alternation_plain_iff.mpr h)

theorem MarkerSet.roomToSearch_of_ofList? {keywords : List Text} {ms : MarkerSet} (h : ofList? keywords = .ok ms) :
    RoomToSearch keywords := by
  by_cases hmissing : keywords = [] ∨ [] ∈ keywords
  · rw [ofList?_eq_missing_iff.mpr hmissing] at h
    cases h
  · obtain ⟨hne, hnil⟩ := not_or.mp hmissing
    refine Pattern.fits_alternation_plain_iff.mp ?_
    by_contra hfits
    rw [ofList?_of_not_fits hne hnil (Pattern.parse_alternation hne hnil) (Bool.eq_false_iff.mpr hfits)] at h
    cases h

/-- In either format the pattern of a written line is refused for its size alone. -/
theorem Formatter.ofMarkers?_cases (ms : MarkerSet) :
    (RoomToRewrite ms.markers ∧ ∀ fmt, ofMarkers? fmt ms = .ok ⟨fmt, ms⟩) ∨
      (¬ RoomToRewrite ms.markers ∧ ∀ fmt, ofMarkers? fmt ms = .error .tooLarge) := by
  have hroom : (Pattern.lineExpr (alternation (ms.markers.map plain))).fits = true ↔ RoomToRewrite ms.markers :=
    Pattern.fits_lineExpr_iff
  unfold ofMarkers?
  rw [Pattern.ofText_eq (Pattern.parse_linePattern ms), ← hroom]
  generalize (Pattern.lineExpr (alternation (ms.markers.map plain))).fits = fits
  cases fits with
  | false => exact .inr ⟨Bool.false_ne_true, fun _ => rfl⟩
  | true => exact .inl ⟨rfl, fun _ => rfl⟩

theorem roomToRewrite_standard : RoomToRewrite MarkerSet.standard.markers := by
  rcases Formatter.ofMarkers?_cases .standard with ⟨h, _⟩ | ⟨_, h⟩
  · exact h
  · have hok := Formatter.ofMarkers?_standard .plain
    rw [h] at hok
    cases hok

theorem Settings.markersOf_of_ne_nil {keywords : List Text} (h : keywords ≠ []) :
    markersOf keywords = MarkerSet.ofList? keywords := by
  rw [markersOf, if_neg (mt List.isEmpty_iff.mp h)]

theorem roomToRewrite_of_markersOf {keywords : List Text} {ms : MarkerSet} (h : Settings.markersOf keywords = .ok ms) :
    RoomToRewrite ms.markers ↔ keywords = [] ∨ RoomToRewrite keywords := by
  rw [Settings.markers_of_markersOf h]
  by_cases hnone : keywords = []
  · simp only [hnone, if_true, roomToRewrite_standard, true_or]
  · rw [if_neg hnone, or_iff_right hnone]

namespace FileSystem

variable {fs : FileSystem} {s : Settings} {sink : Sink}

/-- An audit fails on the pattern of a written line just when that is refused. -/
theorem audit_eq_formatter_error_iff {e : Pattern.Error} :
    (fs.audit s sink).result = .error (.formatter e) ↔ Formatter.ofMarkers? s.format s.markers = .error e := by
  constructor
  · intro h
    cases hformatter : Formatter.ofMarkers? s.format s.markers with
    | error e' =>
        rw [(audit_of_formatter_error hformatter).2.1] at h
        cases h
        rfl
    | ok formatter =>
        unfold audit at h
        simp only [hformatter] at h
        split at h
        · cases h
        · split at h
          · cases h
          · cases h
  · exact fun h => (audit_of_formatter_error h).2.1

/-- Keywords that are accepted leave room for the pattern that looks for them. If they leave room for the pattern of a
written line too, or there are none, no audit in either format fails on that pattern. If they do not, every audit does,
before it lists or writes anything, and only for the size of the pattern. -/
theorem audit_refuses_accepted_iff {o : Options} {root : Bytes} {name : Text} {s : Settings}
    (hsettings : Settings.ofOptions o root name = .ok s) :
    (o.keywords = [] ∨ RoomToSearch o.keywords) ∧
    (o.keywords = [] ∨ RoomToRewrite o.keywords → ∀ fmt,
      Formatter.ofMarkers? fmt s.markers = .ok ⟨fmt, s.markers⟩ ∧
        ∀ (fs : FileSystem) sink e, (fs.audit { s with format := fmt } sink).result ≠ .error (.formatter e)) ∧
    (o.keywords ≠ [] ∧ ¬ RoomToRewrite o.keywords → ∀ fmt,
      Formatter.ofMarkers? fmt s.markers = .error .tooLarge ∧
        ∀ (fs : FileSystem) sink,
          fs.audit { s with format := fmt } sink = ⟨sink, [], .error (.formatter .tooLarge), []⟩) := by
  have hmarkers := (Settings.ofOptions_eq_ok_iff.mp hsettings).1
  have hroom := roomToRewrite_of_markersOf hmarkers
  refine ⟨?_, ?_, ?_⟩
  · refine Classical.or_iff_not_imp_left.mpr fun hne => ?_
    rw [Settings.markersOf_of_ne_nil hne] at hmarkers
    exact MarkerSet.roomToSearch_of_ofList? hmarkers
  · intro hrewrite fmt
    rcases Formatter.ofMarkers?_cases s.markers with ⟨_, hok⟩ | ⟨hno, _⟩
    · refine ⟨hok fmt, fun fs sink e herror => ?_⟩
      rw [audit_eq_formatter_error_iff, hok] at herror
      cases herror
    · exact absurd (hroom.mpr hrewrite) hno
  · rintro ⟨hne, hrewrite⟩ fmt
    rcases Formatter.ofMarkers?_cases s.markers with ⟨hyes, _⟩ | ⟨_, herror⟩
    · exact ((hroom.mp hyes).elim hne hrewrite).elim
    · refine ⟨herror fmt, fun fs sink => ?_⟩
      unfold audit
      simp only [herror fmt]

/-- A short keyword leaves room for both patterns. -/
theorem audit_refuses_accepted_iff_short :
    ∃ s, Settings.ofOptions { keywords := ["x|y".toList] } Start.root ['m'] = .ok s ∧
      ∀ fmt, Formatter.ofMarkers? fmt s.markers = .ok ⟨fmt, s.markers⟩ := by
  obtain ⟨s, hsettings, -⟩ := exists_ok_of_map_toOption (g := fun _ : Settings => ()) (b := ())
    (x := Settings.ofOptions { keywords := ["x|y".toList] } Start.root ['m']) rfl
  have hroom : RoomToRewrite ["x|y".toList] := fun d => by cases d <;> decide
  exact ⟨s, hsettings, fun fmt => ((audit_refuses_accepted_iff hsettings).2.1 (.inr hroom) fmt).1⟩

/-- One keyword leaves room for the one pattern and not for the other if it has between 327425 and 327673 bytes. -/
theorem room_of_single {m : Text} (hlong : 327424 < Utf8.size m) (hshort : Utf8.size m ≤ 327673) :
    RoomToSearch [m] ∧ ¬ RoomToRewrite [m] := by
  refine ⟨Pattern.fits_alternation_plain_iff.mp (Pattern.fits_alternation_single_iff.mpr hshort), fun h => ?_⟩
  exact Nat.not_le.mpr hlong (Pattern.fits_lineExpr_single_iff.mp (Pattern.fits_lineExpr_iff.mpr h))

/-- A keyword of 327425 letters is accepted, and every audit for it fails. -/
theorem audit_fails_on_accepted_keyword :
    ∃ s, Settings.ofOptions { mode := .find, keywords := [List.replicate 327425 'a'] } Start.root "todocheck".toList =
        .ok s ∧
      ∀ fmt, Formatter.ofMarkers? fmt s.markers = .error .tooLarge ∧
        ∀ (fs : FileSystem) sink,
          (fs.audit { s with format := fmt } sink).result = .error (.formatter .tooLarge) := by
  obtain ⟨m, hm⟩ : ∃ m, m = List.replicate 327425 'a' := ⟨_, rfl⟩
  have hsize : Utf8.size m = 327425 := by rw [hm, Utf8.size_replicate]; rfl
  have hnil : [] ∉ [m] := by
    rw [List.mem_singleton]
    rintro rfl
    cases hsize
  obtain ⟨hsearch, hrewrite⟩ := @room_of_single m (by omega) (by omega)
  obtain ⟨filter, hfilter, -⟩ := exists_ok_of_map_toOption (g := fun _ : PathFilter => ()) (b := ())
    (x := PathFilter.ofLists? "todocheck".toList [] []) rfl
  rw [← hm]
  refine ⟨⟨Start.root, .find, .plain, ⟨[m], List.cons_ne_nil _ _, hnil⟩, filter⟩, ?_, fun fmt => ?_⟩
  · exact Settings.ofOptions_eq_ok_iff.mpr
      ⟨MarkerSet.ofList?_of_room (List.cons_ne_nil _ _) hnil hsearch, hfilter, rfl, rfl, rfl⟩
  · rcases Formatter.ofMarkers?_cases ⟨[m], List.cons_ne_nil _ _, hnil⟩ with ⟨hyes, _⟩ | ⟨_, herror⟩
    · exact absurd hyes hrewrite
    · exact ⟨herror fmt, fun fs sink => audit_eq_formatter_error_iff.mpr (herror fmt)⟩

end FileSystem
end MarkerAudit
