import MarkerAudit.Proofs.Audit

/-!
# The rules of a filter

A filter keeps a path by its rules alone, and the first of them is the same whatever the patterns.
-/

namespace MarkerAudit

/-! ## Rules -/

namespace Rule

variable {polarity : Polarity} {source name : Text} {r : Rule}

theorem polarity_of_ofText (h : ofText polarity source = .ok r) : r.polarity = polarity := by
  unfold ofText at h
  cases hpattern : Pattern.ofText source with
  | error e =>
      rw [hpattern] at h
      cases h
  | ok p =>
      rw [hpattern] at h
      cases h
      rfl

end Rule

namespace PathFilter

variable {polarity : Polarity} {sources includes excludes : List Text} {name path : Text} {rules : List Rule}
  {f : PathFilter}

/-- Patterns give one rule each, in their order. -/
theorem forall₂_of_rulesOf (h : rulesOf polarity sources = .ok rules) :
    List.Forall₂ (fun source r => Rule.ofText polarity source = .ok r) sources rules := by
  induction sources generalizing rules with
  | nil =>
      cases h
      exact .nil
  | cons source sources ih =>
      unfold rulesOf at h
      cases hrule : Rule.ofText polarity source with
      | error e =>
          rw [hrule] at h
          cases h
      | ok r =>
          cases hrest : rulesOf polarity sources with
          | error e =>
              simp only [hrule, hrest] at h
              cases h
          | ok rs =>
              simp only [hrule, hrest] at h
              cases h
              exact .cons hrule (ih hrest)

theorem polarity_of_mem_rulesOf (h : rulesOf polarity sources = .ok rules) : ∀ r ∈ rules, r.polarity = polarity := by
  intro r hr
  obtain ⟨_, _, hrule⟩ := exists_left_of_mem (forall₂_of_rulesOf h) hr
  exact Rule.polarity_of_ofText hrule

/-- The rules of a filter are those that its patterns and the tool's name give, the latter first. -/
theorem ofLists?_eq_ok_iff :
    ofLists? name includes excludes = .ok f ↔ ∃ self dropping keeping, Rule.selfExclusion name = .ok self ∧
      rulesOf .drop excludes = .ok dropping ∧ rulesOf .keep includes = .ok keeping ∧
      f.rules = self :: dropping ++ keeping := by
  unfold ofLists?
  obtain ⟨rules⟩ := f
  cases Rule.selfExclusion name with
  | error e => simp
  | ok self =>
      cases rulesOf .drop excludes with
      | error e => simp
      | ok dropping =>
          cases rulesOf .keep includes with
          | error e => simp
          | ok keeping => simp [eq_comm]

theorem filter_polarity {wanted : Polarity} (h : ∀ r ∈ rules, r.polarity = polarity) :
    rules.filter (·.polarity = wanted) = if polarity = wanted then rules else [] := by
  rw [List.filter_congr fun r hr => by rw [h r hr]]
  by_cases hwanted : polarity = wanted
  · simp [hwanted]
  · simp [hwanted]

/-- A filter that is built from lists tells its rules apart by the list that they come from. -/
theorem includes_excludes_of_rules {self : Rule} {dropping keeping : List Rule}
    (hself : Rule.selfExclusion name = .ok self) (hdropping : rulesOf .drop excludes = .ok dropping)
    (hkeeping : rulesOf .keep includes = .ok keeping) (hrules : f.rules = self :: dropping ++ keeping) :
    f.includes = keeping ∧ f.excludes = self :: dropping := by
  have hdrop : ∀ r ∈ self :: dropping, r.polarity = .drop :=
    List.forall_mem_cons.mpr ⟨Rule.polarity_of_ofText hself, polarity_of_mem_rulesOf hdropping⟩
  have hkeep := polarity_of_mem_rulesOf hkeeping
  constructor
  · rw [PathFilter.includes, hrules, List.filter_append, filter_polarity hdrop, filter_polarity hkeep]
    rfl
  · rw [PathFilter.excludes, hrules, List.filter_append, filter_polarity hdrop, filter_polarity hkeep]
    exact List.append_nil _

/-- A filter that is built from lists keeps a path if an include matches it, or there is none, and neither an exclude
nor the rule for the tool itself does. -/
theorem isRetained_iff_of_rules {self : Rule} {dropping keeping : List Rule}
    (hself : Rule.selfExclusion name = .ok self) (hdropping : rulesOf .drop excludes = .ok dropping)
    (hkeeping : rulesOf .keep includes = .ok keeping)
    (hrules : f.rules = self :: dropping ++ keeping) :
    f.isRetained path = true ↔ (keeping = [] ∨ ∃ r ∈ keeping, r.isMatch path = true) ∧ self.isMatch path = false ∧
      ∀ r ∈ dropping, r.isMatch path = false := by
  obtain ⟨hincludes, hexcludes⟩ := includes_excludes_of_rules hself hdropping hkeeping hrules
  rw [isRetained, hincludes, hexcludes]
  simp

/-- Without patterns there is a filter as soon as there is one with some, and it keeps the paths that the rule for the
tool itself does not match. A filter with patterns keeps none but those. -/
theorem exists_ofLists?_nil (h : ofLists? name includes excludes = .ok f) :
    ∃ bare self, ofLists? name [] [] = .ok bare ∧ Rule.selfExclusion name = .ok self ∧
      (∀ path, bare.isRetained path = true ↔ self.isMatch path = false) ∧
      ∀ path, f.isRetained path = true → bare.isRetained path = true := by
  obtain ⟨self, dropping, keeping, hself, hdropping, hkeeping, hrules⟩ := ofLists?_eq_ok_iff.mp h
  have hbare : ∀ path, (PathFilter.mk [self]).isRetained path = true ↔ self.isMatch path = false := by
    intro path
    refine (isRetained_iff_of_rules (f := ⟨[self]⟩) hself (rfl : rulesOf .drop [] = .ok [])
      (rfl : rulesOf .keep [] = .ok []) rfl).trans ?_
    simp
  refine ⟨⟨[self]⟩, self, ofLists?_eq_ok_iff.mpr ⟨self, [], [], hself, rfl, rfl, rfl⟩, hself, hbare, ?_⟩
  intro path hkept
  exact (hbare path).mpr ((isRetained_iff_of_rules hself hdropping hkeeping hrules).mp hkept).2.1

end PathFilter

end MarkerAudit
