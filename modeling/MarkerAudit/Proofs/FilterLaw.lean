import MarkerAudit.Proofs.PathFilter
import MarkerAudit.Proofs.Pattern.Counts

/-!
# The law of filters

A filter keeps a path by which of its patterns occur in it. The order and the number of its patterns do not count, more
excludes keep fewer paths, and more includes keep more paths than some do, but fewer than none do.
-/

namespace MarkerAudit

/-! ## Patterns and rules -/

/-- The text is a pattern that occurs in the path. -/
def Pattern.Selects (source path : Text) : Prop := ∃ e, parse source = .ok e ∧ e.Occurs path

instance (source path : Text) : Decidable (Pattern.Selects source path) :=
  match h : Pattern.parse source with
  | .error _ => isFalse (by simp [Pattern.Selects, h])
  | .ok e => decidable_of_iff (e.occursIn path = true) (by
      simp [Pattern.Selects, h, Pattern.Expr.occursIn_iff (Pattern.ordered_of_parse h)])

variable {polarity : Polarity} {sources includes excludes : List Text} {source name path : Text} {r : Rule}
  {rules : List Rule}

theorem Rule.isMatch_iff_selects (h : ofText polarity source = .ok r) :
    r.isMatch path = true ↔ Pattern.Selects source path := by
  unfold ofText at h
  split at h
  · cases h
  · rename_i p hp
    cases h
    exact Pattern.isMatch_iff_occurs hp

namespace PathFilter

open Pattern (Selects)

variable {f f' : PathFilter}

theorem exists_isMatch_iff (h : rulesOf polarity sources = .ok rules) :
    (∃ r ∈ rules, r.isMatch path = true) ↔ ∃ source ∈ sources, Selects source path := by
  have hall := forall₂_of_rulesOf h
  constructor
  · rintro ⟨r, hr, hmatch⟩
    obtain ⟨source, hsource, hrule⟩ := exists_left_of_mem hall hr
    exact ⟨source, hsource, (Rule.isMatch_iff_selects hrule).mp hmatch⟩
  · rintro ⟨source, hsource, hselects⟩
    obtain ⟨r, hr, hrule⟩ := exists_right_of_mem hall hsource
    exact ⟨r, hr, (Rule.isMatch_iff_selects hrule).mpr hselects⟩

theorem exists_rulesOf_iff :
    (∃ rules, rulesOf polarity sources = .ok rules) ↔ ∀ source ∈ sources, ∃ r, Rule.ofText polarity source = .ok r := by
  constructor
  · rintro ⟨rules, h⟩ source hsource
    obtain ⟨r, _, hrule⟩ := exists_right_of_mem (forall₂_of_rulesOf h) hsource
    exact ⟨r, hrule⟩
  · intro h
    induction sources with
    | nil => exact ⟨[], rfl⟩
    | cons source sources ih =>
        obtain ⟨⟨r, hr⟩, hrest⟩ := List.forall_mem_cons.mp h
        obtain ⟨rules, hrules⟩ := ih hrest
        exact ⟨r :: rules, by rw [rulesOf, hr, hrules]⟩

/-! ## What filters keep -/

/-- Some include selects the path, if there are any, and neither the pattern of the tool itself nor an exclude does. -/
def Passes (name : Text) (includes excludes : List Text) (path : Text) : Prop :=
  (includes = [] ∨ ∃ source ∈ includes, Selects source path) ∧
    ¬ Selects (Rule.selfPattern name) path ∧ ∀ source ∈ excludes, ¬ Selects source path

instance (name : Text) (includes excludes : List Text) (path : Text) : Decidable (Passes name includes excludes path) :=
  inferInstanceAs (Decidable (_ ∧ _))

theorem isRetained_iff_passes (h : ofLists? name includes excludes = .ok f) :
    f.isRetained path = true ↔ Passes name includes excludes path := by
  obtain ⟨self, dropping, keeping, hself, hdropping, hkeeping, hrules⟩ := ofLists?_eq_ok_iff.mp h
  have hnone : keeping = [] ↔ includes = [] := by
    rw [← List.length_eq_zero_iff, ← List.length_eq_zero_iff, (forall₂_of_rulesOf hkeeping).length_eq]
  have hdropped : (∀ r ∈ dropping, r.isMatch path = false) ↔ ∀ source ∈ excludes, ¬ Selects source path := by
    have hmatch : ¬ (∃ r ∈ dropping, r.isMatch path = true) ↔ _ := not_congr (exists_isMatch_iff hdropping)
    push Not at hmatch
    simpa only [Bool.not_eq_true] using hmatch
  rw [isRetained_iff_of_rules hself hdropping hkeeping hrules, Passes, hnone, exists_isMatch_iff hkeeping, hdropped,
    ← Rule.isMatch_iff_selects hself, Bool.not_eq_true]

/-- Patterns are accepted one by one. -/
theorem exists_ofLists?_iff : (∃ f, ofLists? name includes excludes = .ok f) ↔
    (∃ self, Rule.selfExclusion name = .ok self) ∧ (∀ source ∈ excludes, ∃ r, Rule.ofText .drop source = .ok r) ∧
      ∀ source ∈ includes, ∃ r, Rule.ofText .keep source = .ok r := by
  rw [← exists_rulesOf_iff, ← exists_rulesOf_iff]
  constructor
  · rintro ⟨f, h⟩
    obtain ⟨self, dropping, keeping, hself, hdropping, hkeeping, _⟩ := ofLists?_eq_ok_iff.mp h
    exact ⟨⟨self, hself⟩, ⟨dropping, hdropping⟩, keeping, hkeeping⟩
  · rintro ⟨⟨self, hself⟩, ⟨dropping, hdropping⟩, keeping, hkeeping⟩
    exact ⟨⟨self :: dropping ++ keeping⟩,
      ofLists?_eq_ok_iff.mpr ⟨self, dropping, keeping, hself, hdropping, hkeeping, rfl⟩⟩

/-! ## Other patterns -/

/-- Where one filter keeps all that another keeps, the paths that it keeps hold those of the other in their order. -/
theorem sublist_apply (h : ∀ path, f.isRetained path = true → f'.isRetained path = true) (paths : List Text) :
    (f.apply paths).Sublist (f'.apply paths) := List.monotone_filter_right paths h

/-- Filters of the same name keep the same if they have the same patterns, in any order and however often. -/
theorem apply_of_same_patterns {includes' excludes' : List Text} (h : ofLists? name includes excludes = .ok f)
    (hincludes : ∀ source, source ∈ includes' ↔ source ∈ includes)
    (hexcludes : ∀ source, source ∈ excludes' ↔ source ∈ excludes) :
    ∃ f', ofLists? name includes' excludes' = .ok f' ∧ ∀ paths, f'.apply paths = f.apply paths := by
  obtain ⟨f', hlists⟩ : ∃ f', ofLists? name includes' excludes' = .ok f' := by
    have haccepted := exists_ofLists?_iff.mp ⟨f, h⟩
    simpa only [exists_ofLists?_iff, hincludes, hexcludes] using haccepted
  have hnil : includes' = [] ↔ includes = [] := by simp only [List.eq_nil_iff_forall_not_mem, hincludes]
  refine ⟨f', hlists, fun paths => List.filter_congr fun path _ => ?_⟩
  rw [Bool.eq_iff_iff, isRetained_iff_passes hlists, isRetained_iff_passes h]
  simp only [Passes, hnil, hincludes, hexcludes]

/-- A filter keeps just the paths that some include selects, if there are includes, and that neither the pattern of the
tool itself nor an exclude selects, each as often as it is listed and in the order of the list. So filtering twice is
filtering once, and lists are filtered part by part. The order and the number of patterns do not count. More excludes
keep no path that fewer do not; more includes drop none that some keep, and keep none that the filter without includes
does not. -/
theorem apply_eq_filter_passes (h : ofLists? name includes excludes = .ok f) :
    (∀ paths, f.apply paths = paths.filter fun path => Passes name includes excludes path) ∧
    (∀ paths, f.apply (f.apply paths) = f.apply paths) ∧
    (∀ before behind, f.apply (before ++ behind) = f.apply before ++ f.apply behind) ∧
    (∀ includes' excludes', (∀ source, source ∈ includes' ↔ source ∈ includes) →
      (∀ source, source ∈ excludes' ↔ source ∈ excludes) →
      ∃ f', ofLists? name includes' excludes' = .ok f' ∧ ∀ paths, f'.apply paths = f.apply paths) ∧
    (∀ excludes' f', excludes ⊆ excludes' → ofLists? name includes excludes' = .ok f' →
      ∀ paths, (f'.apply paths).Sublist (f.apply paths)) ∧
    (∀ includes' f', includes ≠ [] → includes ⊆ includes' → ofLists? name includes' excludes = .ok f' →
      ∀ paths, (f.apply paths).Sublist (f'.apply paths)) ∧
    (∀ includes' f', includes = [] → ofLists? name includes' excludes = .ok f' →
      ∀ paths, (f'.apply paths).Sublist (f.apply paths)) := by
  refine ⟨?_, ?_, fun _ _ => List.filter_append .., fun _ _ => apply_of_same_patterns h, ?_, ?_, ?_⟩
  · intro paths
    refine List.filter_congr fun path _ => ?_
    rw [Bool.eq_iff_iff, isRetained_iff_passes h, decide_eq_true_eq]
  · intro paths
    rw [apply, apply, List.filter_filter]
    simp only [Bool.and_self]
  · intro excludes' f' hmore h'
    refine sublist_apply fun path => ?_
    rw [isRetained_iff_passes h, isRetained_iff_passes h']
    rintro ⟨hinclude, hself, hexclude⟩
    exact ⟨hinclude, hself, fun source hsource => hexclude source (hmore hsource)⟩
  · intro includes' f' hsome hmore h'
    refine sublist_apply fun path => ?_
    rw [isRetained_iff_passes h, isRetained_iff_passes h']
    rintro ⟨hinclude, hrest⟩
    obtain ⟨source, hsource, hselects⟩ := hinclude.resolve_left hsome
    exact ⟨.inr ⟨source, hmore hsource, hselects⟩, hrest⟩
  · intro includes' f' hnone h'
    refine sublist_apply fun path => ?_
    rw [isRetained_iff_passes h, isRetained_iff_passes h']
    rintro ⟨_, hrest⟩
    exact ⟨.inl hnone, hrest⟩

/-- Of two includes one is excluded. What the other selects is kept as often as it is listed, and writing patterns twice
and the other way round changes nothing. -/
theorem apply_eq_filter_passes_repeated :
    ∃ f f', ofLists? ['m'] [['a'], ['b']] [['a']] = .ok f ∧
      ofLists? ['m'] [['b'], ['a'], ['b']] [['a'], ['a']] = .ok f' ∧
      f'.apply [['b'], ['a'], ['c'], ['b']] = [['b'], ['b']] := by
  have hkept : ((ofLists? ['m'] [['a'], ['b']] [['a']]).toOption.map fun f => f.apply [['b'], ['a'], ['c'], ['b']]) =
      some [['b'], ['b']] := by
    decide +kernel
  obtain ⟨f, hlists, hkept⟩ := exists_ok_of_map_toOption hkept
  obtain ⟨f', hlists', hsame⟩ := (apply_eq_filter_passes hlists).2.2.2.1 [['b'], ['a'], ['b']] [['a'], ['a']]
    (by simp [or_comm]) (by simp)
  exact ⟨f, f', hlists, hlists', (hsame _).trans hkept⟩

end PathFilter
end MarkerAudit
