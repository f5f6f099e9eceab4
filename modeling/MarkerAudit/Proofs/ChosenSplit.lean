import MarkerAudit.Proofs.LineTrials

/-!
# What becomes of a written line

Of all ways to take a written line apart one is chosen: that with the least in front of the number, and with a blank
behind the number if there can be one. It is the first that a search for the pattern meets.
-/

namespace MarkerAudit.Formatter

open Pattern (lineExpr)
open Pattern.Expr

variable {ms : MarkerSet} {line number tail : Text}

/-- The line taken apart: anything, digits between colons, a gap, a marker, and what is left of the line. -/
structure Decomposes (ms : MarkerSet) (line before digits gap marker rest : Text) : Prop where
  eq : line = before ++ (':' :: digits ++ ':' :: (gap ++ (marker ++ rest)))
  noLineEnd : '\n' ∉ before
  someDigit : digits ≠ []
  allDigits : ∀ c ∈ digits, Unicode.Category.decimalNumber.contains c = true
  isGap : IsGap gap
  isMarker : marker ∈ ms.markers
  noLineEndBehind : '\n' ∉ rest

/-- Of all ways to take the line apart, one with the least in front of the number, and with a blank behind it if any way
with as much in front has one. -/
structure IsChosen (ms : MarkerSet) (line before digits gap marker rest : Text) : Prop
    extends Decomposes ms line before digits gap marker rest where
  shortest : ∀ {before' digits' gap' marker' rest'},
    Decomposes ms line before' digits' gap' marker' rest' → before.length ≤ before'.length
  blank : ∀ {digits' gap' marker' rest'},
    Decomposes ms line before digits' gap' marker' rest' → gap' ≠ [] → gap ≠ []

variable {before digits gap marker rest : Text}

theorem Decomposes.splitsInto (h : Decomposes ms line before digits gap marker rest) :
    SplitsInto ms line before (':' :: digits ++ [':']) gap (marker ++ rest) where
  eq := by rw [h.eq]; simp
  noLineEnd := h.noLineEnd
  number := ⟨digits, h.someDigit, h.allDigits, rfl⟩
  gap := h.isGap
  tail := isTail_iff_exists.mpr ⟨marker, h.isMarker, rest, rfl, h.noLineEndBehind⟩

theorem SplitsInto.decomposes (h : SplitsInto ms line before number gap tail) :
    ∃ digits marker rest, number = ':' :: digits ++ [':'] ∧ tail = marker ++ rest ∧
      Decomposes ms line before digits gap marker rest := by
  obtain ⟨digits, hne, hall, rfl⟩ := h.number
  obtain ⟨marker, hmarker, rest, rfl, hend⟩ := isTail_iff_exists.mp h.tail
  exact ⟨digits, marker, rest, rfl, rfl, by rw [h.eq]; simp, h.noLineEnd, hne, hall, h.gap, hmarker, hend⟩

theorem length_le_of_isGap {gap' : Text} (h' : IsGap gap') (h : gap' ≠ [] → gap ≠ []) : gap'.length ≤ gap.length := by
  rcases h' with rfl | ⟨c, _, rfl⟩
  · exact Nat.zero_le _
  · exact List.length_pos_iff.mpr (h (List.cons_ne_nil _ _))

theorem IsChosen.isPreferred (h : IsChosen ms line before digits gap marker rest) : IsPreferred ms line before gap := by
  intro before' number' gap' tail' hinto
  obtain ⟨_, _, _, _, _, hdecomposes⟩ := hinto.decomposes
  refine ⟨h.shortest hdecomposes, fun hlength => length_le_of_isGap hdecomposes.isGap ?_⟩
  obtain ⟨rfl, _⟩ := List.append_inj (h.eq.symm.trans hdecomposes.eq) hlength
  exact h.blank hdecomposes

theorem Decomposes.isChosen (h : Decomposes ms line before digits gap marker rest)
    (hpreferred : IsPreferred ms line before gap) : IsChosen ms line before digits gap marker rest where
  toDecomposes := h
  shortest h' := (hpreferred _ _ _ _ h'.splitsInto).1
  blank h' hgap' := List.length_pos_iff.mp
    (Nat.lt_of_lt_of_le (List.length_pos_iff.mpr hgap') ((hpreferred _ _ _ _ h'.splitsInto).2 rfl))

theorem exists_isChosen (h : Decomposes ms line before digits gap marker rest) :
    ∃ before digits gap marker rest, IsChosen ms line before digits gap marker rest := by
  obtain ⟨⟨head, tail⟩, hsplit⟩ := h.splitsInto.exists_splitLine?
  obtain ⟨before', number, gap', _, hinto, hpreferred⟩ := splitLine?_eq_some_iff.mp hsplit
  obtain ⟨digits', marker', rest', _, _, hdecomposes⟩ := hinto.decomposes
  exact ⟨before', digits', gap', marker', rest', hdecomposes.isChosen hpreferred⟩

/-- A line can be taken apart just when its pattern matches. -/
theorem exists_decomposes_iff : (∃ before digits gap marker rest, Decomposes ms line before digits gap marker rest) ↔
    ∃ j, (lineExpr (alternation (ms.markers.map plain))).MatchesAt line 0 j := by
  simp only [matchesAt_lineExpr]
  constructor
  · rintro ⟨_, _, _, _, _, h⟩
    exact ⟨_, rfl, _, _, _, _, h.splitsInto⟩
  · rintro ⟨_, _, _, _, _, _, h⟩
    obtain ⟨_, _, _, _, _, h⟩ := h.decomposes
    exact ⟨_, _, _, _, _, h⟩

/-! ## Warnings -/

theorem formatLine_warn (ms : MarkerSet) (line : Text) : formatLine ⟨.warn, ms⟩ line =
    match (splitAttempts ms line).head? with
    | some (head, tail) => head ++ warningWord ++ tail
    | none => line := by
  rw [formatLine, splitLine?_eq_head?]
  cases (splitAttempts ms line).head? with
  | none => rfl
  | some x => rfl

/-- What a match of the pattern is replaced by: the group of the head, the word, and the group of the tail. -/
def warning (groups : List Text) : Text := groups.getD 0 [] ++ warningWord ++ groups.getD 1 []

/-- A line becomes a warning as a search for the pattern of written lines takes it apart: what the pattern matches first
is replaced, and this is the first attempt to split the line. It is the chosen way to take the line apart, and whatever
stands in front of the number or from the marker on is kept as it is. -/
theorem formatLine_eq_chosen {f : Formatter} (hf : ofMarkers? .warn ms = .ok f) (line : Text) :
    (∃ e, Pattern.parse (linePattern ms) = .ok e ∧ f.formatLine line = e.replaceFirst warning line ∧
      (e.trials none line).head?.map (fun w => (w.groups, w.rest)) =
        (splitAttempts ms line).head?.map (fun (head, tail) => ([head, tail], [])) ∧
      (e.Occurs line ↔ ∃ before digits gap marker rest, Decomposes ms line before digits gap marker rest)) ∧
    (f.formatLine line = match (splitAttempts ms line).head? with
      | some (head, tail) => head ++ warningWord ++ tail
      | none => line) ∧
    ((¬ ∃ before digits gap marker rest, Decomposes ms line before digits gap marker rest) → f.formatLine line = line) ∧
    ((∃ before digits gap marker rest, Decomposes ms line before digits gap marker rest) →
      ∃ before digits gap marker rest, IsChosen ms line before digits gap marker rest) ∧
    ∀ before digits gap marker rest, IsChosen ms line before digits gap marker rest →
      f.formatLine line = before ++ (':' :: digits ++ ':' :: (warningWord ++ (marker ++ rest))) := by
  obtain ⟨rfl, _⟩ := ofMarkers?_eq_ok_iff.mp hf
  refine ⟨⟨_, Pattern.parse_linePattern ms, ?_, head?_trials_lineExpr ms line, ?_⟩, formatLine_warn ms line, ?_, ?_, ?_⟩
  · rw [formatLine_warn, replaceFirst_lineExpr]
    cases (splitAttempts ms line).head? with
    | none => rfl
    | some x => rfl
  · rw [occurs_lineExpr, exists_decomposes_iff]
  · intro hnone
    rw [exists_decomposes_iff, ← exists_splitLine?_iff, not_exists] at hnone
    simp only [formatLine, Option.eq_none_iff_forall_ne_some.mpr hnone]
  · rintro ⟨_, _, _, _, _, h⟩
    exact exists_isChosen h
  · intro before digits gap marker rest h
    have hsplit := splitLine?_eq_some_iff.mpr ⟨before, _, gap, rfl, h.splitsInto, h.isPreferred⟩
    simp only [formatLine, hsplit]
    simp

/-- The number in front of the first marker is the second of the line, one blank is dropped, and a group name and a
second marker stay as they are. -/
theorem formatLine_eq_chosen_second :
    ∃ f, ofMarkers? .warn .standard = .ok f ∧
      (∃ before digits gap marker rest,
        IsChosen .standard "x:1:y:22: TODO: $0 TODO:".toList before digits gap marker rest) ∧
      f.formatLine "x:1:y:22: TODO: $0 TODO:".toList = "x:1:y:22:warning: TODO: $0 TODO:".toList := by
  obtain ⟨_, hsearch, _, hchosen, _⟩ :=
    formatLine_eq_chosen (ofMarkers?_standard .warn) "x:1:y:22: TODO: $0 TODO:".toList
  have hdigits : ∀ c ∈ ['2', '2'], Unicode.Category.decimalNumber.contains c = true :=
    List.forall_mem_cons.mpr ⟨rfl, List.forall_mem_singleton.mpr rfl⟩
  refine ⟨_, ofMarkers?_standard .warn, hchosen ?_, hsearch.trans rfl⟩
  exact ⟨"x:1:y".toList, ['2', '2'], " ".toList, "TODO:".toList, " $0 TODO:".toList, rfl, by decide,
    List.cons_ne_nil _ _, hdigits, .inr ⟨' ', rfl, rfl⟩, by decide, by decide⟩

end MarkerAudit.Formatter
