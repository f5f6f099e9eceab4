import MarkerAudit.Proofs.Report

/-!
# How a written line is split

The pattern of a written line matches the lines that can be split, and of all ways to split a line the one is taken that
passes least in front of the number, and a blank behind it if that leaves a tail.
-/

namespace MarkerAudit.Formatter

open Pattern (lineExpr)
open Pattern.Expr

variable {ms : MarkerSet} {line before number gap head tail : Text}

/-- The line as its pattern reads it: anything, a number, a gap, and a tail that begins with a marker. -/
structure SplitsInto (ms : MarkerSet) (line before number gap tail : Text) : Prop where
  eq : line = before ++ (number ++ (gap ++ tail))
  noLineEnd : '\n' ∉ before
  number : IsNumber number
  gap : IsGap gap
  tail : isTail ms tail = true

/-- The split passes no more in front of the number than any other does, and where it passes as much its gap is no
shorter. -/
def IsPreferred (ms : MarkerSet) (line before gap : Text) : Prop :=
  ∀ before' number' gap' tail', SplitsInto ms line before' number' gap' tail' →
    before.length ≤ before'.length ∧ (before.length = before'.length → gap'.length ≤ gap.length)

/-! ## The pattern -/

/-- The pattern of a written line matches the whole line, and just where it can be split. -/
theorem matchesAt_lineExpr {j : Nat} :
    (lineExpr (alternation (ms.markers.map plain))).MatchesAt line 0 j ↔
      j = line.length ∧ ∃ before number gap tail, SplitsInto ms line before number gap tail := by
  simp only [lineExpr, matchesAt_seq_cons, matchesAt_seq_nil, matchesAt_capture, matchesAt_textStart,
    matchesAt_textEnd, Pattern.matchesAt_dots, matchesAt_run_char, matchesAt_plus, matchesAt_option,
    matchesAt_alternation_plain]
  constructor
  · rintro ⟨_, ⟨-, rfl⟩, _, ⟨_, ⟨before, hbefore, rfl, hend⟩, _, ⟨rfl, hcolon⟩, _, ⟨digits, hne, hdigits, rfl, hall⟩,
      _, ⟨rfl, hcolon'⟩, rfl⟩, _, ⟨gap, hgap, hpre, rfl⟩, _, ⟨_, ⟨m, hm, hmarker, rfl⟩, _, ⟨rest, hrest, rfl, hrest'⟩,
      rfl⟩, _, ⟨hlength, rfl⟩, rfl⟩
    -- the parts stand one behind the other, and together they are as long as the line
    have hwhole : before ++ (':' :: (digits ++ ':' :: (gap ++ (m ++ rest)))) <+: line.drop 0 := by
      simp only [append_prefix_drop_iff, cons_prefix_drop_iff]
      exact ⟨hbefore, hcolon, hdigits, hcolon', hpre, hmarker, hrest⟩
    have heq : before ++ (':' :: (digits ++ ':' :: (gap ++ (m ++ rest)))) = line.drop 0 := by
      refine hwhole.eq_of_length ?_
      simp only [List.length_append, List.length_cons, List.drop_zero]
      omega
    refine ⟨rfl, before, ':' :: digits ++ [':'], gap, m ++ rest, ?_, hend, ⟨digits, hne, hall, rfl⟩, hgap,
      isTail_iff_exists.mpr ⟨m, hm, rest, rfl, hrest'⟩⟩
    simpa using heq.symm
  · rintro ⟨rfl, before, _, gap, tail, heq, hend, ⟨digits, hne, hall, rfl⟩, hgap, htail⟩
    obtain ⟨m, hm, rest, rfl, hrest'⟩ := isTail_iff_exists.mp htail
    have hwhole : before ++ (':' :: (digits ++ ':' :: (gap ++ (m ++ rest)))) <+: line.drop 0 := by
      rw [heq]
      simp
    have hlength := congrArg List.length heq
    simp only [append_prefix_drop_iff, cons_prefix_drop_iff] at hwhole
    simp only [List.length_append, List.length_cons, List.length_nil] at hlength
    obtain ⟨hbefore, hcolon, hdigits, hcolon', hpre, hmarker, hrest⟩ := hwhole
    exact ⟨_, ⟨trivial, rfl⟩, _,
      ⟨_, ⟨before, hbefore, rfl, hend⟩, _, ⟨rfl, hcolon⟩, _, ⟨digits, hne, hdigits, rfl, hall⟩, _, ⟨rfl, hcolon'⟩, rfl⟩,
      _, ⟨gap, hgap, hpre, rfl⟩, _, ⟨_, ⟨m, hm, hmarker, rfl⟩, _, ⟨rest, hrest, rfl, hrest'⟩, rfl⟩,
      _, ⟨by omega, rfl⟩, rfl⟩

/-- The pattern of a written line matches at the start of a line only. -/
theorem occurs_lineExpr {e : Pattern.Expr Pattern.Atom} :
    (lineExpr e).Occurs line ↔ ∃ j, (lineExpr e).MatchesAt line 0 j := by
  constructor
  · rintro ⟨i, j, _, h⟩
    obtain ⟨_, hstart, _⟩ := matchesAt_seq_cons.mp h
    obtain ⟨rfl, _⟩ := matchesAt_textStart.mp hstart
    exact ⟨j, h⟩
  · rintro ⟨j, h⟩
    exact ⟨0, j, Nat.zero_le _, h⟩

/-! ## The split -/

theorem SplitsInto.splitNumber? (h : SplitsInto ms line [] number gap tail) : ∃ s, splitNumber? ms line = some s := by
  obtain ⟨tail', htail⟩ := exists_tail? h.gap h.tail
  refine ⟨(number, tail'), splitNumber?_eq_some_iff.mpr ⟨h.number, gap ++ tail, ?_, htail⟩⟩
  rw [h.eq, List.nil_append]

theorem splitsInto_cons {c : Char} :
    SplitsInto ms (c :: line) (c :: before) number gap tail ↔ c ≠ '\n' ∧ SplitsInto ms line before number gap tail := by
  constructor
  · intro h
    have hend := h.noLineEnd
    rw [List.mem_cons, not_or] at hend
    exact ⟨Ne.symm hend.1, (List.cons.inj h.eq).2, hend.2, h.number, h.gap, h.tail⟩
  · rintro ⟨hc, h⟩
    refine ⟨by rw [h.eq, List.cons_append], ?_, h.number, h.gap, h.tail⟩
    rw [List.mem_cons, not_or]
    exact ⟨Ne.symm hc, h.noLineEnd⟩

theorem splitNumber?_preferred (h : splitNumber? ms line = some (number, tail)) :
    ∃ gap, SplitsInto ms line [] number gap tail ∧ IsPreferred ms line [] gap := by
  obtain ⟨hnumber, behind, rfl, htail⟩ := splitNumber?_eq_some_iff.mp h
  obtain ⟨gap, rfl, hgap, htail, hgreedy⟩ := tail?_eq_some htail
  refine ⟨gap, ⟨rfl, List.not_mem_nil, hnumber, hgap, htail⟩, ?_⟩
  intro before' number' gap' tail' h'
  refine ⟨Nat.zero_le _, fun hlength => ?_⟩
  have heq := h'.eq
  rw [List.length_eq_zero_iff.mp hlength.symm, List.nil_append] at heq
  exact hgreedy gap' tail' (hnumber.append_inj h'.number heq).2 h'.gap h'.tail

theorem splitLine?_eq_some {passed : Text} (h : splitLine? ms passed line = some (head, tail)) :
    ∃ before number gap, head = passed.reverse ++ before ++ number ∧ SplitsInto ms line before number gap tail ∧
      IsPreferred ms line before gap := by
  induction line generalizing passed with
  | nil => cases h
  | cons c line ih =>
      rw [splitLine?] at h
      split at h
      · rename_i number tail' hsplit
        cases h
        obtain ⟨gap, hinto, hpreferred⟩ := splitNumber?_preferred hsplit
        exact ⟨[], number, gap, by rw [List.append_nil], hinto, hpreferred⟩
      · rename_i hnone
        split at h
        · cases h
        · rename_i hc
          obtain ⟨before, number, gap, hhead, hinto, hpreferred⟩ := ih h
          refine ⟨c :: before, number, gap, by simpa using hhead, splitsInto_cons.mpr ⟨hc, hinto⟩, ?_⟩
          intro before' number' gap' tail' h'
          cases before' with
          | nil =>
              obtain ⟨s, hs⟩ := h'.splitNumber?
              rw [hnone] at hs
              cases hs
          | cons d before' =>
              obtain ⟨rfl, _⟩ := List.cons.inj h'.eq
              have hle := hpreferred before' number' gap' tail' (splitsInto_cons.mp h').2
              simp only [List.length_cons, Nat.add_right_cancel_iff, Nat.add_le_add_iff_right]
              exact hle

theorem SplitsInto.exists_splitLine? (h : SplitsInto ms line before number gap tail) :
    ∃ s, splitLine? ms [] line = some s := by
  obtain ⟨tail', htail'⟩ := exists_tail? h.gap h.tail
  have hnumber := splitNumber?_eq_some_iff.mpr ⟨h.number, _, rfl, htail'⟩
  obtain ⟨_, _, _, _, _, _, _, hline⟩ := @splitLine?_of_split ms [] _ _ _ h.noLineEnd hnumber
  rw [h.eq]
  exact ⟨_, hline⟩

/-- A line is split just when its pattern matches. -/
theorem exists_splitLine?_iff :
    (∃ s, splitLine? ms [] line = some s) ↔
      ∃ j, (lineExpr (alternation (ms.markers.map plain))).MatchesAt line 0 j := by
  simp only [matchesAt_lineExpr]
  constructor
  · rintro ⟨⟨head, tail⟩, h⟩
    obtain ⟨before, number, gap, _, hinto, _⟩ := splitLine?_eq_some h
    exact ⟨_, rfl, before, number, gap, tail, hinto⟩
  · rintro ⟨_, _, before, number, gap, tail, hinto⟩
    exact hinto.exists_splitLine?

/-- The preferred split is the one that is made. -/
theorem splitLine?_eq_some_iff :
    splitLine? ms [] line = some (head, tail) ↔ ∃ before number gap, head = before ++ number ∧
      SplitsInto ms line before number gap tail ∧ IsPreferred ms line before gap := by
  constructor
  · intro h
    obtain ⟨before, number, gap, hhead, h⟩ := splitLine?_eq_some h
    exact ⟨before, number, gap, hhead, h⟩
  · rintro ⟨before, number, gap, rfl, hinto, hpreferred⟩
    obtain ⟨⟨head', tail'⟩, hsplit⟩ := hinto.exists_splitLine?
    obtain ⟨before', number', gap', rfl, hinto', hpreferred'⟩ := splitLine?_eq_some hsplit
    -- each of the two splits is preferred to the other
    have hbefore := Nat.le_antisymm (hpreferred _ _ _ _ hinto').1 (hpreferred' _ _ _ _ hinto).1
    have hgap := Nat.le_antisymm ((hpreferred' _ _ _ _ hinto).2 hbefore.symm) ((hpreferred _ _ _ _ hinto').2 hbefore)
    obtain ⟨rfl, hnumber⟩ := List.append_inj (hinto.eq.symm.trans hinto'.eq) hbefore
    obtain ⟨rfl, hbehind⟩ := hinto.number.append_inj hinto'.number hnumber
    obtain ⟨_, rfl⟩ := List.append_inj hbehind hgap
    exact hsplit

end MarkerAudit.Formatter
