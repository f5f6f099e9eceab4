import Mathlib.Data.List.Infix
import MarkerAudit.Proofs.SelfExclusion

/-!
# Plain patterns

A text without the characters of operators is a pattern for itself: it is found wherever it stands in a path, with its
blanks and line ends, and no character of it means anything else. As the only include or exclude it selects the paths
that hold it.
-/

namespace MarkerAudit

variable {t path : Text}

/-! ## Patterns -/

namespace Pattern

open MarkerAudit.Pattern.Expr

/-- The text holds none of the characters that operators are written with. -/
def IsPlain (t : Text) : Prop := ∀ c ∈ t, c ∉ operators

instance (t : Text) : Decidable (IsPlain t) := List.decidableBAll _ t

/-- A plain text is read as one branch of its characters. -/
theorem ofText_of_isPlain (h : IsPlain t) : ∃ a, a.Spells t ∧ Ast.ofText t = .ok a := by
  obtain ⟨items, stop, hitems, hread⟩ := reads_plain ⟨.begin 0, [], []⟩ 0 h
  let s := ReadState.pushAll ⟨.begin 0, [], []⟩ items
  have hspells : (s.level.branch stop).Spells t :=
    ⟨_, stop, by simpa [s, ReadState.pushAll, Level.begin] using hitems, rfl⟩
  have hfinish : s.finish stop = .ok (s.level.branch stop) := rfl
  have hdeep : (s.level.branch stop).tooDeep? nestLimit = none := hspells.tooDeep?_eq_none 249
  refine ⟨_, hspells, ?_⟩
  rw [Ast.ofText, Cursor.ofText, hread.finish, hfinish]
  simp only [hdeep]

theorem occurs_plain_iff : (plain t).Occurs path ↔ t <:+: path := by
  simp only [Occurs, matchesAt_plain]
  constructor
  · rintro ⟨i, _, _, hstands, _⟩
    exact hstands.isInfix.trans (List.drop_suffix i path).isInfix
  · rintro ⟨before, behind, rfl⟩
    refine ⟨before.length, _, by simp, ?_, rfl⟩
    rw [List.append_assoc, List.drop_left]
    exact List.prefix_append t behind

theorem occurs_empty : (empty : Expr Atom).Occurs path := ⟨0, 0, Nat.zero_le _, .empty 0⟩

/-- A plain text is no syntax error. What it means occurs where the text stands, and is small enough for texts of so
many bytes. -/
theorem exists_parse_of_isPlain (h : IsPlain t) :
    ∃ e, parse t = .ok e ∧ (∀ path, e.Occurs path ↔ t <:+: path) ∧ (e.fits = true ↔ Utf8.size t ≤ 327673) := by
  by_cases hne : t = []
  · subst hne
    exact ⟨.empty, rfl, fun path => iff_of_true occurs_empty List.nil_infix, iff_of_true rfl (Nat.zero_le _)⟩
  · obtain ⟨a, ha, htree⟩ := ofText_of_isPlain h
    refine ⟨plain t, ?_, fun path => occurs_plain_iff, fits_alternation_single_iff⟩
    simp only [parse, htree, ha.elaborate hne]

theorem selects_of_isPlain (h : IsPlain t) : Selects t path ↔ t <:+: path := by
  obtain ⟨e, hparse, hoccurs, _⟩ := exists_parse_of_isPlain h
  simp [Selects, hparse, hoccurs]

end Pattern

open Pattern (IsPlain)

/-! ## Rules and filters -/

namespace Rule

variable {polarity : Polarity}

theorem exists_ofText_of_isPlain (h : IsPlain t) (polarity : Polarity) (hsize : Utf8.size t ≤ 327673) :
    ∃ r, ofText polarity t = .ok r := by
  obtain ⟨e, hparse, _, hfits⟩ := Pattern.exists_parse_of_isPlain h
  exact ⟨⟨polarity, t, e⟩, by rw [ofText, Pattern.ofText_eq hparse, if_pos (hfits.mpr hsize)]⟩

theorem ofText_eq_tooLarge_of_isPlain (h : IsPlain t) (polarity : Polarity) (hsize : 327673 < Utf8.size t) :
    ofText polarity t = .error .tooLarge := by
  obtain ⟨e, hparse, _, hfits⟩ := Pattern.exists_parse_of_isPlain h
  rw [ofText, Pattern.ofText_eq hparse, if_neg (mt hfits.mp (Nat.not_le.mpr hsize))]

end Rule

namespace PathFilter

variable {name : Text}

theorem exists_ofLists?_of_isPlain {includes excludes : List Text} (hname : Utf8.size name ≤ 327668)
    (hincludes : ∀ t ∈ includes, IsPlain t ∧ Utf8.size t ≤ 327673)
    (hexcludes : ∀ t ∈ excludes, IsPlain t ∧ Utf8.size t ≤ 327673) :
    ∃ f, ofLists? name includes excludes = .ok f := by
  refine exists_ofLists?_iff.mpr ⟨exists_selfExclusion hname, ?_, ?_⟩
  · exact fun t ht => Rule.exists_ofText_of_isPlain (hexcludes t ht).1 .drop (hexcludes t ht).2
  · exact fun t ht => Rule.exists_ofText_of_isPlain (hincludes t ht).1 .keep (hincludes t ht).2

/-- A text without the characters of operators gives a rule of either polarity, unless it is too long, and the rule
matches just the paths that hold the text anywhere. As the only include it keeps these without those that are named as
the tool is, and as the only exclude it keeps all others without those. -/
theorem plain_pattern_selects {t : Text} (h : IsPlain t) :
    (∀ polarity, (Utf8.size t ≤ 327673 → ∃ r, Rule.ofText polarity t = .ok r ∧ r.polarity = polarity ∧
        ∀ path, r.isMatch path = true ↔ t <:+: path) ∧
      (327673 < Utf8.size t → Rule.ofText polarity t = .error .tooLarge)) ∧
    ∀ name, Utf8.size name ≤ 327668 → Utf8.size t ≤ 327673 →
      ∃ keeping dropping, ofLists? name [t] [] = .ok keeping ∧ ofLists? name [] [t] = .ok dropping ∧
        ∀ paths, keeping.apply paths = paths.filter (fun path => t <:+: path ∧ ¬ IsNamed name path) ∧
          dropping.apply paths = paths.filter (fun path => ¬ t <:+: path ∧ ¬ IsNamed name path) := by
  constructor
  · intro polarity
    refine ⟨fun hsize => ?_, Rule.ofText_eq_tooLarge_of_isPlain h polarity⟩
    obtain ⟨r, hr⟩ := Rule.exists_ofText_of_isPlain h polarity hsize
    refine ⟨r, hr, Rule.polarity_of_ofText hr, fun path => ?_⟩
    exact (Rule.isMatch_iff_selects hr).trans (Pattern.selects_of_isPlain h)
  · intro name hname hsize
    have hplain : ∀ t' ∈ [t], IsPlain t' ∧ Utf8.size t' ≤ 327673 := List.forall_mem_singleton.mpr ⟨h, hsize⟩
    obtain ⟨keeping, hkeeping⟩ := exists_ofLists?_of_isPlain hname hplain (List.forall_mem_nil _)
    obtain ⟨dropping, hdropping⟩ := exists_ofLists?_of_isPlain hname (List.forall_mem_nil _) hplain
    refine ⟨keeping, dropping, hkeeping, hdropping, fun paths => ⟨?_, ?_⟩⟩
    · refine List.filter_congr fun path _ => ?_
      rw [Bool.eq_iff_iff, isRetained_iff_passes hkeeping, decide_eq_true_eq, Passes, selects_selfPattern_iff]
      simp [Pattern.selects_of_isPlain h]
    · refine List.filter_congr fun path _ => ?_
      rw [Bool.eq_iff_iff, isRetained_iff_passes hdropping, decide_eq_true_eq, Passes, selects_selfPattern_iff]
      simp [Pattern.selects_of_isPlain h, and_comm]

/-- Blanks, a number sign and a line end stand for themselves. -/
theorem plain_pattern_selects_blanks :
    ∃ r f, Rule.ofText .drop [' ', '#', '\u00e9', '\n'] = .ok r ∧
      r.isMatch ['a', ' ', '#', '\u00e9', '\n'] = true ∧ r.isMatch ['a', '#', '\n'] = false ∧
      ofLists? ['m'] [] [[' ', '#', '\u00e9', '\n']] = .ok f ∧
      f.apply [['a', ' ', '#', '\u00e9', '\n'], ['a', '#', '\n'], ['m']] = [['a', '#', '\n']] := by
  have hsize : Utf8.size [' ', '#', '\u00e9', '\n'] = 5 := rfl
  have hname : Utf8.size ['m'] = 1 := rfl
  obtain ⟨hrule, hfilter⟩ := @plain_pattern_selects [' ', '#', '\u00e9', '\n'] (by decide)
  obtain ⟨r, hr, _, hmatch⟩ := (hrule .drop).1 (by omega)
  obtain ⟨_, f, _, hlists, happly⟩ := hfilter ['m'] (by omega) (by omega)
  refine ⟨r, f, hr, (hmatch _).mpr (by decide), ?_, hlists, (happly _).2.trans (by decide)⟩
  exact Bool.eq_false_iff.mpr (mt (hmatch _).mp (by decide))

end PathFilter
end MarkerAudit
