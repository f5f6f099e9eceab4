import MarkerAudit.Pattern.Meaning
import MarkerAudit.Proofs.CharSet
import MarkerAudit.Proofs.Text

/-!
# Where expressions match

What an expression matches is told by texts that stand at a position. Joining alternatives of one character into a set
does not change where an expression matches.
-/

namespace MarkerAudit.Pattern.Expr

/-- The expression that matches just the text. -/
def plain (t : Text) : Expr Atom := .run (t.map .char)

variable {text : Text} {i j : Nat}

/-! ## Texts at a position -/

theorem append_prefix_drop_iff {s t : Text} :
    s ++ t <+: text.drop i ↔ s <+: text.drop i ∧ t <+: text.drop (i + s.length) := by
  constructor
  · rintro ⟨rest, hrest⟩
    refine ⟨⟨t ++ rest, by rw [← hrest, List.append_assoc]⟩, rest, ?_⟩
    rw [← List.drop_drop, ← hrest, List.append_assoc, List.drop_left]
  · rintro ⟨⟨rest, hrest⟩, rest', hrest'⟩
    refine ⟨rest', ?_⟩
    rw [← List.drop_drop, ← hrest, List.drop_left] at hrest'
    rw [List.append_assoc, hrest', hrest]

theorem singleton_prefix_drop_iff {c : Char} : [c] <+: text.drop i ↔ text[i]? = some c := by
  rw [← List.head?_drop]
  cases text.drop i with
  | nil => simp
  | cons d rest => simp [List.cons_prefix_cons, eq_comm]

theorem cons_prefix_drop_iff {c : Char} {t : Text} :
    c :: t <+: text.drop i ↔ text[i]? = some c ∧ t <+: text.drop (i + 1) := by
  rw [← singleton_prefix_drop_iff, ← List.singleton_append, append_prefix_drop_iff, List.length_singleton]

/-! ## Runs -/

theorem matchesAt_empty : empty.MatchesAt text i j ↔ j = i := by
  constructor
  · intro h
    cases h
    rfl
  · rintro rfl
    exact .empty _

theorem matchesAt_run_nil : (run []).MatchesAt text i j ↔ j = i := by
  constructor
  · intro h
    cases h
    rfl
  · rintro rfl
    exact .runNil _

theorem matchesAt_run_cons {a : Atom} {atoms : List Atom} :
    (run (a :: atoms)).MatchesAt text i j ↔ ∃ k, a.Matches text i k ∧ (run atoms).MatchesAt text k j := by
  constructor
  · intro h
    cases h with
    | runCons ha hrest => exact ⟨_, ha, hrest⟩
  · rintro ⟨k, ha, hrest⟩
    exact .runCons ha hrest

theorem matchesAt_run_append {atoms more : List Atom} :
    (run (atoms ++ more)).MatchesAt text i j ↔
      ∃ k, (run atoms).MatchesAt text i k ∧ (run more).MatchesAt text k j := by
  induction atoms generalizing i with
  | nil => simp [matchesAt_run_nil]
  | cons a atoms ih =>
      simp only [List.cons_append, matchesAt_run_cons, ih]
      constructor
      · rintro ⟨l, ha, k, hatoms, hmore⟩
        exact ⟨k, ⟨l, ha, hatoms⟩, hmore⟩
      · rintro ⟨k, ⟨l, ha, hatoms⟩, hmore⟩
        exact ⟨l, ha, k, hatoms, hmore⟩

theorem matchesAt_run_set {s : CharSet} :
    (run [.set s]).MatchesAt text i j ↔ j = i + 1 ∧ ∃ c, text[i]? = some c ∧ s.contains c = true := by
  rw [matchesAt_run_cons]
  simp only [matchesAt_run_nil, Atom.Matches]
  constructor
  · rintro ⟨_, ⟨rfl, hc⟩, rfl⟩
    exact ⟨rfl, hc⟩
  · rintro ⟨rfl, hc⟩
    exact ⟨_, ⟨rfl, hc⟩, rfl⟩

theorem matchesAt_run_char {c : Char} : (run [.char c]).MatchesAt text i j ↔ j = i + 1 ∧ text[i]? = some c := by
  rw [matchesAt_run_cons]
  simp only [matchesAt_run_nil, Atom.Matches]
  constructor
  · rintro ⟨_, ⟨rfl, hc⟩, rfl⟩
    exact ⟨rfl, hc⟩
  · rintro ⟨rfl, hc⟩
    exact ⟨_, ⟨rfl, hc⟩, rfl⟩

/-- A plain text matches where it stands. -/
theorem matchesAt_plain {t : Text} : (plain t).MatchesAt text i j ↔ t <+: text.drop i ∧ j = i + t.length := by
  induction t generalizing i with
  | nil => simp [plain, matchesAt_run_nil]
  | cons c t ih =>
      have hstep : (plain (c :: t)).MatchesAt text i j ↔ text[i]? = some c ∧ (plain t).MatchesAt text (i + 1) j := by
        rw [plain, List.map_cons, matchesAt_run_cons]
        constructor
        · rintro ⟨_, ⟨rfl, hc⟩, hrest⟩
          exact ⟨hc, hrest⟩
        · rintro ⟨hc, hrest⟩
          exact ⟨i + 1, ⟨rfl, hc⟩, hrest⟩
      have hlen : j = i + 1 + t.length ↔ j = i + (t.length + 1) := by omega
      rw [hstep, ih, cons_prefix_drop_iff, and_assoc, hlen, List.length_cons]

/-! ## Alternatives -/

theorem matchesAt_alt {branches : List (Expr Atom)} :
    (alt branches).MatchesAt text i j ↔ ∃ e ∈ branches, e.MatchesAt text i j := by
  constructor
  · intro h
    cases h with
    | alt he hm => exact ⟨_, he, hm⟩
  · rintro ⟨e, he, hm⟩
    exact .alt he hm

theorem matchesAt_branches {e : Expr Atom} : (∃ b ∈ e.branches, b.MatchesAt text i j) ↔ e.MatchesAt text i j := by
  cases e with
  | alt bs => rw [branches, matchesAt_alt]
  | _ => simp [branches]

/-- An expression of one character matches the members of its set. -/
theorem matchesAt_of_charSet? {e : Expr Atom} {s : CharSet} (h : e.charSet? = some s) :
    e.MatchesAt text i j ↔ j = i + 1 ∧ ∃ c, text[i]? = some c ∧ s.contains c = true := by
  unfold charSet? at h
  split at h
  · cases h
    simp [matchesAt_run_char]
  · cases h
    exact matchesAt_run_set
  · cases h

theorem matchesAt_ofSet {s : CharSet} :
    (ofSet s).MatchesAt text i j ↔ j = i + 1 ∧ ∃ c, text[i]? = some c ∧ s.contains c = true := by
  unfold ofSet
  split
  · rename_i c hc
    simp [matchesAt_run_char, CharSet.contains_of_only? hc]
  · exact matchesAt_run_set

theorem mapM_charSet?_eq_some {es : List (Expr Atom)} {sets : List CharSet} (h : es.mapM charSet? = some sets) :
    List.Forall₂ (fun e s => charSet? e = some s) es sets := by
  induction es generalizing sets with
  | nil =>
      cases h
      exact .nil
  | cons e es ih =>
      simp only [List.mapM_cons, Option.pure_def, Option.bind_eq_bind, Option.bind_eq_some_iff, Option.some.injEq] at h
      obtain ⟨s, hs, rest, hrest, rfl⟩ := h
      exact .cons hs (ih hrest)

/-- An alternative matches where any of its branches does. -/
theorem matchesAt_alternation {es : List (Expr Atom)} :
    (alternation es).MatchesAt text i j ↔ ∃ e ∈ es, e.MatchesAt text i j := by
  have hflat : (∃ b ∈ es.flatMap branches, b.MatchesAt text i j) ↔ ∃ e ∈ es, e.MatchesAt text i j := by
    simp only [List.mem_flatMap]
    constructor
    · rintro ⟨b, ⟨e, he, hb⟩, hm⟩
      exact ⟨e, he, matchesAt_branches.mp ⟨b, hb, hm⟩⟩
    · rintro ⟨e, he, hm⟩
      obtain ⟨b, hb, hm⟩ := matchesAt_branches.mpr hm
      exact ⟨b, ⟨e, he, hb⟩, hm⟩
  rw [← hflat]
  unfold alternation
  split
  · rename_i e he
    simp [he]
  · split
    · -- branches of one character each have become one set
      rename_i sets hsets
      have hall := mapM_charSet?_eq_some hsets
      simp only [matchesAt_ofSet, CharSet.contains_unions]
      constructor
      · rintro ⟨hj, c, hc, s, hs, hmem⟩
        obtain ⟨e, he, hes⟩ := exists_left_of_mem hall hs
        exact ⟨e, he, (matchesAt_of_charSet? hes).mpr ⟨hj, c, hc, hmem⟩⟩
      · rintro ⟨e, he, hm⟩
        obtain ⟨s, hs, hes⟩ := exists_right_of_mem hall he
        obtain ⟨hj, c, hc, hmem⟩ := (matchesAt_of_charSet? hes).mp hm
        exact ⟨hj, c, hc, s, hs, hmem⟩
    · exact matchesAt_alt

/-- The alternation of markers matches just the markers. -/
theorem matchesAt_alternation_plain {markers : List Text} :
    (alternation (markers.map plain)).MatchesAt text i j ↔
      ∃ m ∈ markers, m <+: text.drop i ∧ j = i + m.length := by
  simp only [matchesAt_alternation, List.mem_map, exists_exists_and_eq_and, matchesAt_plain]

/-! ## One expression after another -/

theorem matchesAt_seq_nil : (seq []).MatchesAt text i j ↔ j = i := by
  constructor
  · intro h
    cases h
    rfl
  · rintro rfl
    exact .seqNil _

theorem matchesAt_seq_cons {e : Expr Atom} {parts : List (Expr Atom)} :
    (seq (e :: parts)).MatchesAt text i j ↔ ∃ k, e.MatchesAt text i k ∧ (seq parts).MatchesAt text k j := by
  constructor
  · intro h
    cases h with
    | seqCons he hrest => exact ⟨_, he, hrest⟩
  · rintro ⟨k, he, hrest⟩
    exact .seqCons he hrest

theorem matchesAt_capture {e : Expr Atom} : (capture e).MatchesAt text i j ↔ e.MatchesAt text i j := by
  constructor
  · intro h
    cases h with
    | capture h => exact h
  · exact .capture

/-! ## Ends of the text -/

theorem matchesAt_textStart : (run [.look .textStart]).MatchesAt text i j ↔ i = 0 ∧ j = 0 := by
  simp only [matchesAt_run_cons, matchesAt_run_nil, Atom.Matches, Look.holds]
  constructor
  · rintro ⟨_, ⟨rfl, hle, hstart⟩, rfl⟩
    split at hstart
    · rename_i h
      exact ⟨h, h⟩
    · rename_i h
      rw [Option.isNone_iff_eq_none, List.getElem?_eq_none_iff] at hstart
      omega
  · rintro ⟨rfl, rfl⟩
    exact ⟨0, ⟨rfl, Nat.zero_le _, rfl⟩, rfl⟩

theorem matchesAt_textEnd : (run [.look .textEnd]).MatchesAt text i j ↔ i = text.length ∧ j = text.length := by
  simp only [matchesAt_run_cons, matchesAt_run_nil, Atom.Matches, Look.holds, Option.isNone_iff_eq_none,
    List.getElem?_eq_none_iff]
  constructor
  · rintro ⟨_, ⟨rfl, hle, hend⟩, rfl⟩
    omega
  · rintro ⟨rfl, rfl⟩
    exact ⟨_, ⟨rfl, Nat.le_refl _, Nat.le_refl _⟩, rfl⟩

/-- A text matches up to the end where it is all that is left. -/
theorem matchesAt_chars_textEnd {t : Text} : (run (t.map .char ++ [.look .textEnd])).MatchesAt text i j ↔
    j = text.length ∧ i ≤ text.length ∧ text.drop i = t := by
  have hplain : ∀ k, (run (t.map .char)).MatchesAt text i k ↔ t <+: text.drop i ∧ k = i + t.length :=
    fun k => matchesAt_plain
  simp only [matchesAt_run_append, hplain, matchesAt_textEnd]
  constructor
  · rintro ⟨k, ⟨hstands, rfl⟩, hend, hj⟩
    have hlength : t.length = (text.drop i).length := by
      rw [List.length_drop]
      omega
    exact ⟨hj, by omega, (hstands.eq_of_length hlength).symm⟩
  · rintro ⟨hj, hi, hdrop⟩
    have hlength := congrArg List.length hdrop
    rw [List.length_drop] at hlength
    exact ⟨_, ⟨hdrop ▸ List.prefix_refl _, rfl⟩, by omega, hj⟩

/-! ## Repetitions of one character -/

variable {s : CharSet} {greed : Greed}

/-- Any number of characters of a set. -/
theorem matchesAt_star : (repetition 0 none greed (run [.set s])).MatchesAt text i j ↔
    ∃ t, t <+: text.drop i ∧ j = i + t.length ∧ ∀ c ∈ t, s.contains c = true := by
  constructor
  · intro h
    unfold MatchesAt at h
    generalize he : repetition 0 none greed (run [Atom.set s]) = e at h
    induction h with
    | stop _ _ _ i => exact ⟨[], List.nil_prefix, rfl, List.forall_mem_nil _⟩
    | round _ hbody _ _ ih =>
        cases he
        obtain ⟨rfl, c, hc, hmem⟩ := matchesAt_run_set.mp hbody
        obtain ⟨t, ht, rfl, hall⟩ := ih rfl
        refine ⟨c :: t, ?_, by simp only [List.length_cons]; omega, List.forall_mem_cons.mpr ⟨hmem, hall⟩⟩
        exact cons_prefix_drop_iff.mpr ⟨hc, ht⟩
    | _ => cases he
  · rintro ⟨t, ht, rfl, hall⟩
    induction t generalizing i with
    | nil => exact .stop none _ _ i
    | cons c t ih =>
        obtain ⟨hc, ht⟩ := cons_prefix_drop_iff.mp ht
        rw [List.forall_mem_cons] at hall
        refine .round nofun (matchesAt_run_set.mpr ⟨rfl, c, hc, hall.1⟩) ?_
        rw [List.length_cons, Nat.add_comm t.length, ← Nat.add_assoc]
        exact ih ht hall.2

/-- Some characters of a set. -/
theorem matchesAt_plus : (repetition 1 none greed (run [.set s])).MatchesAt text i j ↔
    ∃ t, t ≠ [] ∧ t <+: text.drop i ∧ j = i + t.length ∧ ∀ c ∈ t, s.contains c = true := by
  constructor
  · intro h
    cases h with
    | round _ hbody hrest =>
        obtain ⟨rfl, c, hc, hmem⟩ := matchesAt_run_set.mp hbody
        obtain ⟨t, ht, rfl, hall⟩ := matchesAt_star.mp hrest
        refine ⟨c :: t, List.cons_ne_nil c t, ?_, by simp only [List.length_cons]; omega,
          List.forall_mem_cons.mpr ⟨hmem, hall⟩⟩
        exact cons_prefix_drop_iff.mpr ⟨hc, ht⟩
  · rintro ⟨t, hne, ht, rfl, hall⟩
    cases t with
    | nil => exact absurd rfl hne
    | cons c t =>
        obtain ⟨hc, ht⟩ := cons_prefix_drop_iff.mp ht
        rw [List.forall_mem_cons] at hall
        refine .round nofun (matchesAt_run_set.mpr ⟨rfl, c, hc, hall.1⟩) ?_
        exact matchesAt_star.mpr ⟨t, ht, by simp only [List.length_cons]; omega, hall.2⟩

/-- At most one character of a set. -/
theorem matchesAt_option : (repetition 0 (some 1) greed (run [.set s])).MatchesAt text i j ↔
    ∃ t, (t = [] ∨ ∃ c, s.contains c = true ∧ t = [c]) ∧ t <+: text.drop i ∧ j = i + t.length := by
  constructor
  · intro h
    cases h with
    | stop => exact ⟨[], .inl rfl, List.nil_prefix, rfl⟩
    | round _ hbody hrest =>
        obtain ⟨rfl, c, hc, hmem⟩ := matchesAt_run_set.mp hbody
        cases hrest with
        | stop => exact ⟨[c], .inr ⟨c, hmem, rfl⟩, singleton_prefix_drop_iff.mpr hc, rfl⟩
        | round hmost => exact absurd rfl hmost
  · rintro ⟨_, rfl | ⟨c, hmem, rfl⟩, hpre, rfl⟩
    · exact .stop (some 1) _ _ _
    · exact .round nofun (matchesAt_run_set.mpr ⟨rfl, c, singleton_prefix_drop_iff.mp hpre, hmem⟩)
        (.stop (some 0) _ _ _)

end MarkerAudit.Pattern.Expr
