import MarkerAudit.Options.Usage
import MarkerAudit.Proofs.FilterLaw
import MarkerAudit.Proofs.Pattern.LastComponent

/-!
# The tool's name and its rule

The tool is known by the last component of the path that it is started by. There is a rule for every name that is not
too long, which matches the paths that the name is the last component of, and no include takes it back.
-/

namespace MarkerAudit

open Ascii

/-! ## Names of starts -/

/-- Between the slashes of the path, the component is the last that is neither empty nor the directory itself. -/
def IsLastComponent (n path : Bytes) : Prop :=
  ∃ front behind, segments slash path = front ++ n :: behind ∧ n ≠ [] ∧ n ≠ [period] ∧
    ∀ c ∈ behind, c = [] ∨ c = [period]

variable {n path : Bytes}

theorem isLastComponent_iff :
    IsLastComponent n path ↔ ((segments slash path).filter fun c => c ≠ [] && c ≠ [period]).getLast? = some n := by
  rw [List.getLast?_filter, List.find?_eq_some_iff_append]
  constructor
  · rintro ⟨front, behind, hsegs, hne, hdot, hbehind⟩
    refine ⟨by simp [hne, hdot], behind.reverse, front.reverse, by simp [hsegs], ?_⟩
    intro c hc
    rcases hbehind c (List.mem_reverse.mp hc) with rfl | rfl <;> rfl
  · rintro ⟨hn, behind, front, hsegs, hbehind⟩
    have hsegs' : segments slash path = front.reverse ++ n :: behind.reverse := by
      rw [← List.reverse_reverse (segments slash path), hsegs]
      simp
    simp only [Bool.and_eq_true, decide_eq_true_eq] at hn
    refine ⟨_, _, hsegs', hn.1, hn.2, fun c hc => ?_⟩
    have hc := hbehind c (List.mem_reverse.mp hc)
    simpa [or_iff_not_imp_left] using hc

theorem IsLastComponent.fileName? (h : IsLastComponent n path) :
    fileName? path = if n = [period, period] then none else some n := by
  rw [MarkerAudit.fileName?, isLastComponent_iff.mp h]
  by_cases hn : n = [period, period]
  · rw [hn, if_pos rfl]
    rfl
  · rw [if_neg hn]
    split
    · rename_i hdots
      exact absurd (Option.some.inj hdots) hn
    · rfl

/-- A start by a path gives what the last component of the path reads as. -/
theorem invokedName_of_isLastComponent (h : IsLastComponent n path) :
    invokedName path = if n = [period, period] then toolName else Utf8.decode n := by
  rw [invokedName, h.fileName?]
  by_cases hn : n = [period, period]
  · rw [if_pos hn, if_pos hn]
  · rw [if_neg hn, if_neg hn]

/-- A start by a path that names nothing gives the tool's own name. -/
theorem invokedName_of_forall_not (h : ∀ n, ¬ IsLastComponent n path) : invokedName path = toolName := by
  have hnone : ((segments slash path).filter fun c => c ≠ [] && c ≠ [period]).getLast? = none :=
    Option.eq_none_iff_forall_ne_some.mpr fun n => mt isLastComponent_iff.mpr (h n)
  rw [invokedName, MarkerAudit.fileName?, hnone]

theorem IsLastComponent.slash_notMem (h : IsLastComponent n path) : slash ∉ n := by
  obtain ⟨front, behind, hsegs, _⟩ := h
  exact not_mem_of_mem_segments (hsegs ▸ List.mem_append_right front List.mem_cons_self)

theorem invokedName_isComponent (argv0 : Bytes) : invokedName argv0 ≠ [] ∧ '/' ∉ invokedName argv0 := by
  by_cases h : ∃ n, IsLastComponent n argv0
  · obtain ⟨n, hn⟩ := h
    rw [invokedName_of_isLastComponent hn]
    split
    · decide
    · obtain ⟨_, _, _, hne, _⟩ := id hn
      exact ⟨mt Utf8.decode_eq_nil_iff.mp hne,
        mt (Utf8.mem_decode_ascii_iff (b := slash) (by decide)).mp hn.slash_notMem⟩
  · rw [invokedName_of_forall_not (not_exists.mp h)]
    decide

/-! ## The rule for a name -/

/-- The path is the name, or ends in it behind a slash. -/
def IsNamed (name path : Text) : Prop := path = name ∨ '/' :: name <:+ path

instance (name path : Text) : Decidable (IsNamed name path) := inferInstanceAs (Decidable (_ ∨ _))

variable {name path : Text}

theorem isNamed_iff_getLast? (hname : '/' ∉ name) : IsNamed name path ↔ (segments '/' path).getLast? = some name := by
  rw [getLast?_segments_eq_some_iff, and_iff_right hname, IsNamed]

/-- There is a rule for every name, whatever characters it holds, unless it is too long. -/
theorem selfExclusion_eq (name : Text) :
    Rule.selfExclusion name =
      if Utf8.size name ≤ 327668 then .ok ⟨.drop, Rule.selfPattern name, Pattern.selfExpr name⟩
      else .error .tooLarge := by
  rw [Rule.selfExclusion, Rule.ofText, Pattern.ofText_eq (Pattern.parse_selfPattern name)]
  simp only [Pattern.fits_selfExpr_iff]
  by_cases hsize : Utf8.size name ≤ 327668
  · simp only [if_pos hsize]
  · simp only [if_neg hsize]

theorem exists_selfExclusion (h : Utf8.size name ≤ 327668) : ∃ self, Rule.selfExclusion name = .ok self :=
  ⟨_, by rw [selfExclusion_eq, if_pos h]⟩

theorem selects_selfPattern_iff : Pattern.Selects (Rule.selfPattern name) path ↔ IsNamed name path := by
  simp [Pattern.Selects, Pattern.parse_selfPattern, Pattern.occurs_selfExpr_iff, IsNamed]

theorem isMatch_of_selfExclusion {self : Rule} (h : Rule.selfExclusion name = .ok self) :
    self.isMatch path = true ↔ IsNamed name path :=
  (Rule.isMatch_iff_selects h).trans selects_selfPattern_iff

/-! ## Filters -/

namespace PathFilter

variable {includes excludes : List Text} {f : PathFilter}

/-- No include takes back the rule for the tool itself. -/
theorem not_isRetained_of_isNamed (h : ofLists? name includes excludes = .ok f) (hpath : IsNamed name path) :
    f.isRetained path = false := by
  rw [← Bool.not_eq_true, isRetained_iff_passes h]
  rintro ⟨_, hself, _⟩
  exact hself (selects_selfPattern_iff.mpr hpath)

/-- Without patterns only the paths of the name are dropped. -/
theorem apply_of_no_patterns (h : ofLists? name [] [] = .ok f) (paths : List Text) :
    f.apply paths = paths.filter fun p => ¬ IsNamed name p := by
  refine List.filter_congr fun p _ => ?_
  rw [Bool.eq_iff_iff, isRetained_iff_passes h, decide_eq_true_eq, Passes, selects_selfPattern_iff]
  simp

end PathFilter

end MarkerAudit
