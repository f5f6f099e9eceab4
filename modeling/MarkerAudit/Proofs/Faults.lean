import MarkerAudit.Proofs.Refusal
import MarkerAudit.Proofs.SelfExclusion

/-!
# The fault that is reported

Options give settings unless something in them is refused: their keywords, an exclude or an include. The fault that is
reported is the first in this order, and of the patterns of a list it is the earliest. It is reported with the pattern
as it was written and with what is wrong with that pattern.
-/

namespace MarkerAudit

/-! ## Patterns -/

/-- The text is a pattern of accepted size. -/
def Pattern.IsAccepted (source : Text) : Prop := ∃ p, ofText source = .ok p

/-- Of the patterns, the one with this fault is the earliest that is refused. -/
def IsFirstRefused (sources : List Text) (e : PatternRefused) : Prop :=
  ∃ before behind, sources = before ++ e.source :: behind ∧ (∀ source ∈ before, Pattern.IsAccepted source) ∧
    Pattern.ofText e.source = .error e.cause

open Pattern (IsAccepted)

variable {sources includes excludes : List Text} {source name : Text} {polarity : Polarity} {e : PatternRefused}

theorem Pattern.not_isAccepted {cause : Error} (h : ofText source = .error cause) : ¬ IsAccepted source := by
  rintro ⟨p, hp⟩
  cases h.symm.trans hp

theorem not_isFirstRefused_nil : ¬ IsFirstRefused [] e := by
  rintro ⟨before, _, h, _⟩
  cases before <;> cases h

/-- A pattern that is accepted is passed over. -/
theorem isFirstRefused_cons_of_isAccepted (h : IsAccepted source) :
    IsFirstRefused (source :: sources) e ↔ IsFirstRefused sources e := by
  constructor
  · rintro ⟨before, behind, hsources, hbefore, hcause⟩
    cases before with
    | nil =>
        cases hsources
        exact absurd h (Pattern.not_isAccepted hcause)
    | cons _ before =>
        cases hsources
        exact ⟨before, behind, rfl, (List.forall_mem_cons.mp hbefore).2, hcause⟩
  · rintro ⟨before, behind, rfl, hbefore, hcause⟩
    exact ⟨source :: before, behind, rfl, List.forall_mem_cons.mpr ⟨h, hbefore⟩, hcause⟩

/-- A pattern that is refused hides those behind it. -/
theorem isFirstRefused_cons_of_error {cause : Pattern.Error} (h : Pattern.ofText source = .error cause) :
    IsFirstRefused (source :: sources) e ↔ e = ⟨source, cause⟩ := by
  constructor
  · rintro ⟨before, behind, hsources, hbefore, hcause⟩
    obtain ⟨source', cause'⟩ := e
    cases before with
    | nil =>
        cases hsources
        cases h.symm.trans hcause
        rfl
    | cons first before =>
        cases hsources
        exact absurd (hbefore _ List.mem_cons_self) (Pattern.not_isAccepted h)
  · rintro rfl
    exact ⟨[], sources, rfl, List.forall_mem_nil _, h⟩

/-! ## Rules and filters -/

namespace Rule

theorem ofText_eq_error_iff {cause : Pattern.Error} :
    ofText polarity source = .error cause ↔ Pattern.ofText source = .error cause := by
  unfold ofText
  cases Pattern.ofText source with
  | error e => simp
  | ok p => simp

theorem exists_ofText_iff : (∃ r, ofText polarity source = .ok r) ↔ IsAccepted source := by
  unfold ofText IsAccepted
  cases Pattern.ofText source with
  | error e => simp
  | ok p => simp

end Rule

namespace PathFilter

/-- The patterns of a list are refused for the earliest that is refused. -/
theorem rulesOf_eq_error_iff : rulesOf polarity sources = .error e ↔ IsFirstRefused sources e := by
  induction sources with
  | nil => exact iff_of_false (fun h => by cases h) not_isFirstRefused_nil
  | cons source sources ih =>
      rw [rulesOf]
      cases hrule : Rule.ofText polarity source with
      | error cause =>
          rw [isFirstRefused_cons_of_error (Rule.ofText_eq_error_iff.mp hrule), Except.error.injEq, eq_comm]
      | ok r =>
          rw [isFirstRefused_cons_of_isAccepted (Rule.exists_ofText_iff.mp ⟨r, hrule⟩), ← ih]
          cases rulesOf polarity sources with
          | error e' => exact Iff.rfl
          | ok rules => simp

/-- A filter is refused for its earliest exclude that is refused, and for its earliest include if all excludes are
accepted. -/
theorem ofLists?_eq_error_iff (hname : Utf8.size name ≤ 327668) :
    ofLists? name includes excludes = .error (.asked e) ↔
      IsFirstRefused excludes e ∨ (∀ source ∈ excludes, IsAccepted source) ∧ IsFirstRefused includes e := by
  have haccepted : (∃ dropping, rulesOf .drop excludes = .ok dropping) ↔ ∀ source ∈ excludes, IsAccepted source := by
    simp only [exists_rulesOf_iff, Rule.exists_ofText_iff]
  obtain ⟨self, hself⟩ := exists_selfExclusion hname
  unfold ofLists?
  rw [← haccepted, ← @rulesOf_eq_error_iff excludes .drop, ← @rulesOf_eq_error_iff includes .keep, hself]
  cases rulesOf .drop excludes with
  | error e' => simp
  | ok dropping =>
      cases rulesOf .keep includes with
      | error e' => simp
      | ok keeping => simp

end PathFilter

/-! ## Settings -/

namespace Settings

/-- The options name no keywords, or such as make a set of markers. -/
def HasMarkers (o : Options) : Prop := o.keywords = [] ∨ ∃ ms, MarkerSet.ofList? o.keywords = .ok ms

variable {o : Options} {root : Bytes}

theorem exists_markersOf_iff : (∃ ms, markersOf o.keywords = .ok ms) ↔ HasMarkers o := by
  by_cases hnone : o.keywords = []
  · exact iff_of_true ⟨.standard, by rw [hnone]; rfl⟩ (.inl hnone)
  · rw [markersOf_of_ne_nil hnone, HasMarkers, or_iff_right hnone]

theorem markersOf_eq_error_iff {e : MarkerError} :
    markersOf o.keywords = .error e ↔ o.keywords ≠ [] ∧ MarkerSet.ofList? o.keywords = .error e := by
  by_cases hnone : o.keywords = []
  · rw [hnone]
    exact iff_of_false (fun h => by cases h) fun h => h.1 rfl
  · rw [markersOf_of_ne_nil hnone, and_iff_right hnone]

/-- Options are refused for their keywords, and for a pattern only if the keywords are accepted. -/
theorem ofOptions_eq_error_iff {refused : SettingsError} :
    ofOptions o root name = .error refused ↔
      (∃ e, markersOf o.keywords = .error e ∧ refused = .markers e) ∨ (∃ ms, markersOf o.keywords = .ok ms) ∧
        ∃ e, PathFilter.ofLists? name o.includes o.excludes = .error e ∧ refused = .pattern e := by
  rw [ofOptions]
  cases markersOf o.keywords with
  | error e' => simp [eq_comm]
  | ok markers =>
      cases PathFilter.ofLists? name o.includes o.excludes with
      | error e' => simp [eq_comm]
      | ok filter => simp

theorem exists_ofOptions_iff :
    (∃ s, ofOptions o root name = .ok s) ↔
      (∃ ms, markersOf o.keywords = .ok ms) ∧ ∃ f, PathFilter.ofLists? name o.includes o.excludes = .ok f := by
  constructor
  · rintro ⟨s, hs⟩
    obtain ⟨hmarkers, hfilter, _⟩ := ofOptions_eq_ok_iff.mp hs
    exact ⟨⟨_, hmarkers⟩, _, hfilter⟩
  · rintro ⟨⟨ms, hmarkers⟩, f, hfilter⟩
    exact ⟨⟨root, o.mode, o.format, ms, f⟩, ofOptions_eq_ok_iff.mpr ⟨hmarkers, hfilter, rfl, rfl, rfl⟩⟩

theorem source_isInfix_message (e : PatternRefused) : e.source <:+: (SettingsError.pattern (.asked e)).message :=
  ⟨_, _, (List.append_assoc _ _ _).symm⟩

/-- Options give settings just when they name no keywords or such as make a set of markers, and all their excludes and
includes are accepted. Otherwise they are refused for the keywords if these make no set; else for the earliest exclude
that is refused; else for the earliest include that is. A pattern that is refused is told as it was written, with its
own fault. -/
theorem ofOptions_reports_first (hname : Utf8.size name ≤ 327668) (o : Options) (root : Bytes) :
    ((∃ s, ofOptions o root name = .ok s) ↔
      HasMarkers o ∧ (∀ source ∈ o.excludes, IsAccepted source) ∧ ∀ source ∈ o.includes, IsAccepted source) ∧
    (∀ e, ofOptions o root name = .error (.markers e) ↔ o.keywords ≠ [] ∧ MarkerSet.ofList? o.keywords = .error e) ∧
    (∀ e, ofOptions o root name = .error (.pattern (.asked e)) ↔ HasMarkers o ∧
      (IsFirstRefused o.excludes e ∨ (∀ source ∈ o.excludes, IsAccepted source) ∧ IsFirstRefused o.includes e)) ∧
    (∀ e, ofOptions o root name ≠ .error (.pattern (.own e))) ∧
    ∀ e, e.source <:+: (SettingsError.pattern (.asked e)).message := by
  refine ⟨?_, ?_, ?_, ?_, source_isInfix_message⟩
  · rw [exists_ofOptions_iff, exists_markersOf_iff, PathFilter.exists_ofLists?_iff,
      and_iff_right (exists_selfExclusion hname)]
    simp only [Rule.exists_ofText_iff]
  · intro e
    rw [← markersOf_eq_error_iff]
    simp [ofOptions_eq_error_iff]
  · intro e
    rw [← PathFilter.ofLists?_eq_error_iff hname, ← exists_markersOf_iff]
    simp [ofOptions_eq_error_iff]
  · intro e hown
    obtain ⟨_, cause, hcause⟩ := ofOptions_eq_own_iff.mp ⟨e, hown⟩
    obtain ⟨self, hself⟩ := exists_selfExclusion hname
    cases hself.symm.trans hcause

/-- The second exclude is reported, not the third or the include, which are refused too. -/
theorem ofOptions_reports_first_second :
    ∃ cause, ofOptions { includes := [[')']], excludes := [['a'], ['('], ['[']] } Start.root ['m'] =
      .error (.pattern (.asked ⟨['('], cause⟩)) := by
  have hname : Utf8.size ['m'] = 1 := rfl
  have haccepted : IsAccepted ['a'] := ⟨_, rfl⟩
  obtain ⟨cause, hcause⟩ : ∃ cause, Pattern.ofText ['('] = .error cause := ⟨_, rfl⟩
  refine ⟨cause, ((ofOptions_reports_first (by omega) _ _).2.2.1 _).mpr ⟨.inl rfl, .inl ?_⟩⟩
  exact ⟨[['a']], [['[']], rfl, List.forall_mem_singleton.mpr haccepted, hcause⟩

end Settings
end MarkerAudit
