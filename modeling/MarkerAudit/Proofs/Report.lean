import MarkerAudit.Proofs.MarkerSet
import MarkerAudit.Proofs.Pattern.WrittenLine

/-!
# Written lines as warnings

A written line is split behind the first number in front of a marker. Rendering knows where the number of a finding is,
so that both give the same warning unless the path holds such a number too.
-/

namespace MarkerAudit

/-- One or more decimal digits between colons. -/
def IsNumber (number : Text) : Prop :=
  ∃ digits, digits ≠ [] ∧ (∀ c ∈ digits, Unicode.Category.decimalNumber.contains c = true) ∧
    number = ':' :: digits ++ [':']

/-- A marker stands at the start of the text or behind one blank there. -/
def MarkerFollows (ms : MarkerSet) (t : Text) : Prop :=
  ∃ m ∈ ms.markers, m <+: t ∨ ∃ c, Unicode.Property.whiteSpace.contains c = true ∧ c :: m <+: t

/-- Nothing or one blank. -/
def IsGap (gap : Text) : Prop := gap = [] ∨ ∃ c, Unicode.Property.whiteSpace.contains c = true ∧ gap = [c]

/-- The path and the line of a finding, each with a colon behind it. -/
def Finding.head (f : Finding) : Text := f.path ++ ':' :: Text.ofNat f.line ++ [':']

/-- The written finding looks as if its number ended before it does: a number in front of a marker. -/
def EarlierHead (ms : MarkerSet) (f : Finding) (head : Text) : Prop :=
  head <+: f.head ∧ head ≠ f.head ∧ (∃ before number, IsNumber number ∧ head = before ++ number) ∧
    MarkerFollows ms (f.display.drop head.length)

theorem Finding.display_eq (f : Finding) : f.display = f.head ++ f.fragment := by
  simp [display, head]

theorem ReportFormat.render_plain (f : Finding) : plain.render f = f.head ++ f.fragment := f.display_eq

theorem ReportFormat.render_warn (f : Finding) : warn.render f = f.head ++ (warningWord ++ f.fragment) := by
  simp [render, Finding.head]

theorem ReportFormat.render_eq (fmt : ReportFormat) (f : Finding) :
    fmt.render f = f.path ++ ':' :: Text.ofNat f.line ++ ':' :: (if fmt = .warn then "warning: ".toList else []) ++
      f.fragment := by
  cases fmt with
  | plain =>
      rw [if_neg ReportFormat.noConfusion, List.append_assoc]
      rfl
  | warn =>
      rw [if_pos rfl]
      rfl

theorem Finding.getLast?_of_head_eq (f : Finding) {before rest : Text} (h : f.head = before ++ rest)
    (hrest : rest ≠ []) : rest.getLast? = some ':' := by
  have hlast := congrArg List.getLast? h
  rw [head, List.getLast?_concat, List.getLast?_append_of_ne_nil _ hrest] at hlast
  exact hlast.symm

/-! ## Digits -/

theorem contains_of_isDigit {c : Char} (h : c.isDigit = true) : Unicode.Category.decimalNumber.contains c = true := by
  rw [CharSet.contains, CharSet.hasCode_iff]
  refine ⟨⟨0x30, 0x39⟩, List.mem_cons_self, ?_⟩
  simp only [Char.isDigit, Bool.and_eq_true, decide_eq_true_eq] at h
  exact ⟨UInt32.le_iff_toNat_le.mp h.1, UInt32.le_iff_toNat_le.mp h.2⟩

theorem not_contains_colon : Unicode.Category.decimalNumber.contains ':' = false := by decide +kernel

theorem not_contains_lineEnd : Unicode.Category.decimalNumber.contains '\n' = false := by decide +kernel

theorem contains_ofNat {n : Nat} {c : Char} (h : c ∈ Text.ofNat n) :
    Unicode.Category.decimalNumber.contains c = true :=
  contains_of_isDigit (Nat.isDigit_of_mem_toDigits (by decide) (by decide) h)

theorem colon_not_mem_ofNat (n : Nat) : ':' ∉ Text.ofNat n := by
  intro h
  have hc := contains_ofNat h
  rw [not_contains_colon] at hc
  cases hc

theorem takeWhile_digits {digits behind : Text}
    (hall : ∀ c ∈ digits, Unicode.Category.decimalNumber.contains c = true) :
    (digits ++ ':' :: behind).takeWhile Unicode.Category.decimalNumber.contains = digits := by
  rw [List.takeWhile_append_of_pos hall, List.takeWhile_cons_of_neg (by simp [not_contains_colon]), List.append_nil]

theorem IsNumber.append_inj {number number' behind behind' : Text} (h : IsNumber number) (h' : IsNumber number')
    (heq : number ++ behind = number' ++ behind') : number = number' ∧ behind = behind' := by
  obtain ⟨digits, _, hall, rfl⟩ := h
  obtain ⟨digits', _, hall', rfl⟩ := h'
  have hrest : digits ++ ':' :: behind = digits' ++ ':' :: behind' := by simpa using heq
  have hdigits : digits = digits' := by
    rw [← takeWhile_digits hall, hrest, takeWhile_digits hall']
  subst hdigits
  exact ⟨rfl, List.append_cancel_left heq⟩

theorem isNumber_ofNat (n : Nat) : IsNumber (':' :: Text.ofNat n ++ [':']) :=
  ⟨Text.ofNat n, Nat.toDigits_ne_nil, fun _ => contains_ofNat, rfl⟩

namespace Formatter

variable {ms : MarkerSet} {t number tail : Text}

/-! ## Tails -/

theorem isTail_iff_exists : isTail ms t = true ↔ ∃ m ∈ ms.markers, ∃ rest, t = m ++ rest ∧ '\n' ∉ rest := by
  simp only [isTail, List.any_eq_true]
  constructor
  · rintro ⟨m, hm, hrest⟩
    split at hrest
    · rename_i rest hsome
      exact ⟨m, hm, rest, dropPrefix?_eq_some_iff.mp hsome, by simpa using hrest⟩
    · cases hrest
  · rintro ⟨m, hm, rest, rfl, hend⟩
    refine ⟨m, hm, ?_⟩
    rw [dropPrefix?_eq_some_iff.mpr rfl]
    simpa using hend

theorem isTail_iff (ht : '\n' ∉ t) : isTail ms t = true ↔ ∃ m ∈ ms.markers, m <+: t := by
  rw [isTail_iff_exists]
  constructor
  · rintro ⟨m, hm, rest, rfl, _⟩
    exact ⟨m, hm, rest, rfl⟩
  · rintro ⟨m, hm, rest, rfl⟩
    exact ⟨m, hm, rest, rfl, fun h => ht (List.mem_append_right m h)⟩

theorem isTail_ne_nil (h : isTail ms tail = true) : tail ≠ [] := by
  obtain ⟨m, hm, rest, rfl, _⟩ := isTail_iff_exists.mp h
  intro hnil
  exact ms.noEmptyMarker ((List.append_eq_nil_iff.mp hnil).1 ▸ hm)

/-- The tail stands behind a gap, and behind the longest one that leaves a tail. -/
theorem tail?_eq_some (h : tail? ms t = some tail) :
    ∃ gap, t = gap ++ tail ∧ IsGap gap ∧ isTail ms tail = true ∧
      ∀ gap' tail', t = gap' ++ tail' → IsGap gap' → isTail ms tail' = true → gap'.length ≤ gap.length := by
  unfold tail? at h
  split at h
  · rename_i c rest
    split at h
    · rename_i hblank
      cases h
      rw [Bool.and_eq_true] at hblank
      refine ⟨[c], rfl, .inr ⟨c, hblank.1, rfl⟩, hblank.2, ?_⟩
      rintro _ _ _ (rfl | ⟨_, _, rfl⟩) _
      · exact Nat.zero_le _
      · exact Nat.le_refl _
    · rename_i hblank
      split at h
      · rename_i htail
        cases h
        refine ⟨[], rfl, .inl rfl, htail, ?_⟩
        rintro _ tail' heq (rfl | ⟨d, hd, rfl⟩) htail'
        · exact Nat.le_refl _
        · obtain ⟨rfl, rfl⟩ := List.cons.inj heq
          exact absurd (Bool.and_eq_true_iff.mpr ⟨hd, htail'⟩) hblank
      · cases h
  · cases h

theorem exists_tail? {gap : Text} (hgap : IsGap gap) (htail : isTail ms tail = true) :
    ∃ tail', tail? ms (gap ++ tail) = some tail' := by
  rcases hgap with rfl | ⟨c, hc, rfl⟩
  · cases tail with
    | nil => exact absurd rfl (isTail_ne_nil htail)
    | cons c rest =>
        simp only [List.nil_append, tail?, htail, if_true]
        split
        · exact ⟨_, rfl⟩
        · exact ⟨_, rfl⟩
  · exact ⟨tail, by simp [tail?, hc, htail]⟩

theorem exists_tail?_iff (ht : '\n' ∉ t) : (∃ tail, tail? ms t = some tail) ↔ MarkerFollows ms t := by
  constructor
  · rintro ⟨tail, h⟩
    obtain ⟨gap, rfl, hgap, htail, _⟩ := tail?_eq_some h
    obtain ⟨m, hm, rest, rfl, _⟩ := isTail_iff_exists.mp htail
    rcases hgap with rfl | ⟨c, hc, rfl⟩
    · exact ⟨m, hm, .inl ⟨rest, rfl⟩⟩
    · exact ⟨m, hm, .inr ⟨c, hc, rest, rfl⟩⟩
  · rintro ⟨m, hm, ⟨rest, rfl⟩ | ⟨c, hc, rest, rfl⟩⟩
    · exact @exists_tail? ms (m ++ rest) [] (.inl rfl) ((isTail_iff ht).mpr ⟨m, hm, rest, rfl⟩)
    · have hrest : '\n' ∉ m ++ rest := fun h => ht (List.mem_cons_of_mem c h)
      exact @exists_tail? ms (m ++ rest) [c] (.inr ⟨c, hc, rfl⟩) ((isTail_iff hrest).mpr ⟨m, hm, rest, rfl⟩)

theorem tail?_eq_self
    (hblank : ∀ m ∈ ms.markers, ∀ c, m.head? = some c → Unicode.Property.whiteSpace.contains c = false)
    (ht : '\n' ∉ t) (hstart : ∃ m ∈ ms.markers, m <+: t) : tail? ms t = some t := by
  obtain ⟨m, hm, hpre⟩ := hstart
  cases m with
  | nil => exact absurd hm ms.noEmptyMarker
  | cons c m =>
      cases t with
      | nil => cases List.prefix_nil.mp hpre
      | cons d rest =>
          obtain ⟨rfl, _⟩ := List.cons_prefix_cons.mp hpre
          have hc := hblank _ hm c rfl
          simp only [tail?, hc, Bool.false_and, Bool.false_eq_true, if_false]
          rw [if_pos ((isTail_iff ht).mpr ⟨_, hm, hpre⟩)]

/-! ## Splitting -/

/-- A text splits behind a number at its start if a tail comes next. -/
theorem splitNumber?_eq_some_iff :
    splitNumber? ms t = some (number, tail) ↔
      IsNumber number ∧ ∃ behind, t = number ++ behind ∧ tail? ms behind = some tail := by
  constructor
  · intro h
    unfold splitNumber? at h
    split at h
    · rename_i rest
      dsimp only at h
      split at h
      · rename_i d ds behind hdigits hdrop
        obtain ⟨tail', htail, heq⟩ := Option.map_eq_some_iff.mp h
        obtain ⟨rfl, rfl⟩ := Prod.mk.inj heq
        refine ⟨⟨_, ?_, ?_, rfl⟩, behind, ?_, htail⟩
        · rw [hdigits]
          exact List.cons_ne_nil d ds
        · intro c hc
          exact List.all_eq_true.mp List.all_takeWhile c hc
        · have htake := List.prefix_iff_eq_take.mp
            (List.takeWhile_prefix (l := rest) Unicode.Category.decimalNumber.contains)
          have hsplit := List.take_append_drop (rest.takeWhile Unicode.Category.decimalNumber.contains).length rest
          rw [← htake, hdrop] at hsplit
          simp [hsplit]
      · cases h
    · cases h
  · rintro ⟨⟨digits, hne, hall, rfl⟩, behind, rfl, htail⟩
    simp only [splitNumber?, List.cons_append, List.append_assoc, List.nil_append, takeWhile_digits hall,
      List.drop_left]
    cases digits with
    | nil => exact absurd rfl hne
    | cons d ds => simp [htail]

/-- A line that can be split behind some text is split there or earlier. -/
theorem splitLine?_of_split {passed before rest : Text} {s : Text × Text} (hend : '\n' ∉ before)
    (hsplit : splitNumber? ms rest = some s) :
    ∃ before' rest' number tail, before ++ rest = before' ++ rest' ∧ before'.length ≤ before.length ∧
      splitNumber? ms rest' = some (number, tail) ∧
      splitLine? ms passed (before ++ rest) = some (passed.reverse ++ before' ++ number, tail) := by
  -- on what stands before: a split that is possible earlier is the one that is made
  induction before generalizing passed with
  | nil =>
      refine ⟨[], rest, s.1, s.2, rfl, Nat.le_refl 0, hsplit, ?_⟩
      cases rest with
      | nil => cases hsplit
      | cons c rest => simp [splitLine?, hsplit]
  | cons c before ih =>
      rw [List.mem_cons, not_or] at hend
      cases hhere : splitNumber? ms (c :: (before ++ rest)) with
      | some found =>
          refine ⟨[], c :: (before ++ rest), found.1, found.2, rfl, Nat.zero_le _, hhere, ?_⟩
          simp [splitLine?, hhere]
      | none =>
          obtain ⟨before', rest', number, tail, heq, hle, hnumber, hline⟩ := @ih (c :: passed) hend.2
          refine ⟨c :: before', rest', number, tail, ?_, Nat.succ_le_succ hle, hnumber, ?_⟩
          · rw [List.cons_append, heq, List.cons_append]
          · simp only [List.cons_append, splitLine?, hhere]
            rw [if_neg (Ne.symm hend.1), hline]
            simp

end Formatter

/-! ## Places of numbers -/

/-- A number that begins in the path ends there, or at the colon behind it. -/
theorem IsNumber.ends_before {f : Finding} {before number behind : Text} (hnumber : IsNumber number)
    (heq : f.display = before ++ (number ++ behind)) (hlt : before.length < f.path.length) :
    ':' ∈ f.path ∧ ∃ rest, rest ≠ [] ∧ f.head = before ++ number ++ rest := by
  obtain ⟨digits, _, hall, rfl⟩ := hnumber
  have hdisplay : f.path ++ ':' :: (Text.ofNat f.line ++ ':' :: f.fragment) =
      before ++ (':' :: digits ++ ':' :: behind) := by
    simpa [Finding.display] using heq
  have hcolon : ':' ∉ digits := by
    intro hmem
    have hc := hall _ hmem
    rw [not_contains_colon] at hc
    cases hc
  -- the first colon of the number lies in the path, and its digits pass no other colon
  rcases List.append_eq_append_iff.mp hdisplay with ⟨beyond, hbefore, _⟩ | ⟨inner, hpath, hinner⟩
  · rw [hbefore, List.length_append] at hlt
    omega
  cases inner with
  | nil =>
      rw [hpath, List.append_nil] at hlt
      exact absurd hlt (Nat.lt_irrefl _)
  | cons c inner =>
      rw [List.cons_append, List.cons_append, List.cons.injEq] at hinner
      obtain ⟨rfl, hinner⟩ := hinner
      refine ⟨hpath ▸ List.mem_append_right before List.mem_cons_self, ?_⟩
      rcases List.append_eq_append_iff.mp hinner with ⟨beyond, rfl, hover⟩ | ⟨beyond, rfl, hover⟩
      · cases beyond with
        | nil =>
            refine ⟨Text.ofNat f.line ++ [':'], by simp, ?_⟩
            simp [Finding.head, hpath]
        | cons d beyond =>
            rw [List.cons_append, List.cons.injEq] at hover
            refine ⟨beyond ++ ':' :: Text.ofNat f.line ++ [':'], by simp, ?_⟩
            simp [Finding.head, hpath, ← hover.1]
      · cases beyond with
        | nil =>
            refine ⟨Text.ofNat f.line ++ [':'], by simp, ?_⟩
            simp [Finding.head, hpath]
        | cons d beyond =>
            rw [List.cons_append, List.cons.injEq] at hover
            exact absurd (hover.1 ▸ List.mem_append_right inner List.mem_cons_self) hcolon

/-- A number that ends before the number of the finding begins in the path. -/
theorem IsNumber.begins_in_path {f : Finding} {before number rest : Text} (hnumber : IsNumber number)
    (heq : f.head = before ++ number ++ rest) (hrest : rest ≠ []) : before.length < f.path.length := by
  obtain ⟨digits, _, _, rfl⟩ := hnumber
  rcases Nat.lt_or_ge before.length f.path.length with hlt | hge
  · exact hlt
  exfalso
  have hlast := f.getLast?_of_head_eq heq hrest
  have hpath : f.path <+: before := by
    refine List.prefix_of_prefix_length_le ⟨':' :: Text.ofNat f.line ++ [':'], ?_⟩
      ⟨':' :: digits ++ [':'] ++ rest, rfl⟩ hge
    rw [← List.append_assoc, ← List.append_assoc, ← heq, Finding.head, List.append_assoc]
  obtain ⟨beyond, rfl⟩ := hpath
  have hinner : ':' :: (Text.ofNat f.line ++ [':']) = beyond ++ (':' :: digits ++ [':']) ++ rest := by
    simpa [Finding.head] using heq
  have hcount := congrArg (List.count ':') hinner
  have hdigits := List.count_eq_zero.mpr (colon_not_mem_ofNat f.line)
  have hpos : 0 < rest.count ':' := List.count_pos_iff.mpr (List.mem_of_getLast? hlast)
  simp only [List.cons_append, List.count_append, List.count_cons, List.count_nil, hdigits, beq_self_eq_true, if_true]
    at hcount
  omega

/-- Nothing that ends in a colon can be moved beyond the word of a warning. -/
theorem warningWord_append_ne {rest : Text} (hlast : rest.getLast? = some ':') :
    warningWord ++ rest ≠ rest ++ warningWord := by
  intro h
  have hcolon : (warningWord ++ rest).getLast? = some ':' := by
    rw [List.getLast?_append, hlast, Option.some_or]
  rw [h] at hcolon
  have hblank : (rest ++ warningWord).getLast? = some ' ' := by
    rw [List.getLast?_append]
    rfl
  rw [hblank] at hcolon
  cases hcolon

namespace Formatter

variable {ms : MarkerSet} {m : Finding}

theorem lineEnd_not_mem_display (hpath : '\n' ∉ m.path) (hfrag : '\n' ∉ m.fragment) : '\n' ∉ m.display := by
  have hdigits : '\n' ∉ Text.ofNat m.line := by
    intro h
    have hc := contains_ofNat h
    rw [not_contains_lineEnd] at hc
    cases hc
  simp [Finding.display, hpath, hfrag, hdigits]

/-- Where the written finding is split in its path, the warning differs from what rendering gives. -/
theorem insert_ne_render {before number rest tail behind : Text} (hrest : rest ≠ [])
    (hhead : m.head = before ++ number ++ rest) (heq : m.display = before ++ (number ++ behind))
    (htail : tail? ms behind = some tail) : before ++ number ++ warningWord ++ tail ≠ ReportFormat.warn.render m := by
  intro hrender
  have hbehind : behind = rest ++ m.fragment := by
    rw [Finding.display_eq, hhead] at heq
    simpa using heq.symm
  have hlast := m.getLast?_of_head_eq hhead hrest
  have hmoved : warningWord ++ tail = rest ++ (warningWord ++ m.fragment) := by
    rw [ReportFormat.render_warn, hhead] at hrender
    simpa using hrender
  obtain ⟨gap, hgap, rfl | ⟨c, _, rfl⟩, _⟩ := tail?_eq_some htail
  -- with no blank dropped only the place of the word differs; a dropped blank makes one warning shorter
  · rw [List.nil_append] at hgap
    rw [← hgap, hbehind, ← List.append_assoc, ← List.append_assoc] at hmoved
    exact warningWord_append_ne hlast (List.append_cancel_right hmoved)
  · have hlength := congrArg List.length hmoved
    have hlength' := congrArg List.length (hgap.symm.trans hbehind)
    simp only [List.length_append, List.length_cons, List.length_nil] at hlength hlength'
    omega

/-- There is a formatter for markers just when the pattern of a line is small enough. -/
theorem ofMarkers?_eq_ok_iff {fmt : ReportFormat} {f : Formatter} :
    ofMarkers? fmt ms = .ok f ↔
      f = ⟨fmt, ms⟩ ∧ (Pattern.lineExpr (.alternation (ms.markers.map .plain))).fits = true := by
  unfold ofMarkers?
  rw [Pattern.ofText_eq (Pattern.parse_linePattern ms)]
  generalize (Pattern.lineExpr (.alternation (ms.markers.map .plain))).fits = fits
  cases fits with
  | false => simp
  | true => simp [eq_comm]

theorem ofMarkers?_standard (fmt : ReportFormat) : ofMarkers? fmt .standard = .ok ⟨fmt, .standard⟩ :=
  ofMarkers?_eq_ok_iff.mpr ⟨rfl, by decide +kernel⟩

/-- The written finding has a place in its path where it can be split. -/
def SplitsInPath (ms : MarkerSet) (m : Finding) (before number : Text) : Prop :=
  IsNumber number ∧ before.length < m.path.length ∧
    ∃ behind tail, m.display = before ++ (number ++ behind) ∧ tail? ms behind = some tail

theorem SplitsInPath.earlierHead (hend : '\n' ∉ m.display) {before number : Text}
    (h : SplitsInPath ms m before number) : EarlierHead ms m (before ++ number) := by
  obtain ⟨hnumber, hlt, behind, tail, heq, htail⟩ := h
  obtain ⟨_, rest, hrest, hhead⟩ := hnumber.ends_before heq hlt
  refine ⟨⟨rest, hhead.symm⟩, ?_, ⟨before, number, hnumber, rfl⟩, ?_⟩
  · intro hwhole
    rw [hhead] at hwhole
    exact hrest (List.append_right_eq_self.mp hwhole.symm)
  · have hbehind : '\n' ∉ behind := by
      rw [heq] at hend
      exact fun h => hend (List.mem_append_right _ (List.mem_append_right _ h))
    rw [heq, ← List.append_assoc, List.drop_left]
    exact (exists_tail?_iff hbehind).mp ⟨tail, htail⟩

theorem EarlierHead.splitsInPath (hend : '\n' ∉ m.display) {head : Text} (h : EarlierHead ms m head) :
    ∃ before number, SplitsInPath ms m before number := by
  obtain ⟨⟨rest, hhead⟩, hne, ⟨before, number, hnumber, rfl⟩, hfollows⟩ := h
  have hrest : rest ≠ [] := by
    rintro rfl
    exact hne (by rw [← hhead, List.append_nil])
  have heq : m.display = before ++ number ++ (rest ++ m.fragment) := by
    rw [Finding.display_eq, ← hhead, List.append_assoc]
  rw [heq, List.drop_left] at hfollows
  have hbehind : '\n' ∉ rest ++ m.fragment := by
    rw [heq] at hend
    exact fun h => hend (List.mem_append_right _ h)
  obtain ⟨tail, htail⟩ := (exists_tail?_iff hbehind).mpr hfollows
  refine ⟨before, number, hnumber, hnumber.begins_in_path hhead.symm hrest, rest ++ m.fragment, tail, ?_, htail⟩
  rw [heq, List.append_assoc]

/-- A place in the path is where the line is split, or one still earlier is. -/
theorem SplitsInPath.formatLine_ne (hend : '\n' ∉ m.display) {before number : Text}
    (h : SplitsInPath ms m before number) :
    formatLine ⟨.warn, ms⟩ m.display ≠ ReportFormat.warn.render m := by
  obtain ⟨hnumber, hlt, behind, tail, heq, htail⟩ := h
  have hsplit : splitNumber? ms (number ++ behind) = some (number, tail) :=
    splitNumber?_eq_some_iff.mpr ⟨hnumber, behind, rfl, htail⟩
  have hbefore : '\n' ∉ before := by
    rw [heq] at hend
    exact fun h => hend (List.mem_append_left _ h)
  obtain ⟨before', rest', number', tail', heq', hle, hsplit', hline⟩ :=
    @splitLine?_of_split ms [] before (number ++ behind) _ hbefore hsplit
  obtain ⟨hnumber', behind', rfl, htail'⟩ := splitNumber?_eq_some_iff.mp hsplit'
  rw [← heq] at heq' hline
  obtain ⟨_, rest, hrest, hhead⟩ := hnumber'.ends_before heq' (Nat.lt_of_le_of_lt hle hlt)
  simp only [formatLine, hline, List.reverse_nil, List.nil_append]
  exact insert_ne_render hrest hhead heq' htail'

/-- Without a place in the path the line is split behind the number of the finding. -/
theorem formatLine_eq_of_not_splitsInPath (hend : '\n' ∉ m.display)
    (htail : tail? ms m.fragment = some m.fragment) (h : ∀ before number, ¬ SplitsInPath ms m before number) :
    formatLine ⟨.warn, ms⟩ m.display = ReportFormat.warn.render m := by
  have hdisplay : m.display = m.path ++ (':' :: Text.ofNat m.line ++ [':'] ++ m.fragment) := by
    simp [Finding.display]
  have hpath : '\n' ∉ m.path := by
    rw [hdisplay] at hend
    exact fun h => hend (List.mem_append_left _ h)
  have hown : splitNumber? ms (':' :: Text.ofNat m.line ++ [':'] ++ m.fragment) =
      some (':' :: Text.ofNat m.line ++ [':'], m.fragment) :=
    splitNumber?_eq_some_iff.mpr ⟨isNumber_ofNat m.line, m.fragment, rfl, htail⟩
  obtain ⟨before, rest, number, tail, heq, hle, hsplit, hline⟩ := @splitLine?_of_split ms [] _ _ _ hpath hown
  rw [← hdisplay] at heq hline
  rcases Nat.lt_or_eq_of_le hle with hlt | hlen
  · obtain ⟨hnumber, behind, rfl, htail⟩ := splitNumber?_eq_some_iff.mp hsplit
    exact absurd ⟨hnumber, hlt, behind, tail, heq, htail⟩ (h before number)
  · obtain ⟨rfl, rfl⟩ := List.append_inj (heq.symm.trans hdisplay) hlen
    rw [hown] at hsplit
    obtain ⟨rfl, rfl⟩ := Prod.mk.inj (Option.some.inj hsplit)
    simp [formatLine, hline, ReportFormat.render_warn, Finding.head]

/-- A finding that is written and then made a warning is what rendering it as a warning gives, just when its path does
not look as if the number of the line stood there already. A path without colons never does. -/
theorem formatLine_display_eq_render_iff {f : Formatter} (hf : ofMarkers? .warn ms = .ok f)
    (hblank : ∀ k ∈ ms.markers, ∀ c, k.head? = some c → Unicode.Property.whiteSpace.contains c = false)
    (hpath : '\n' ∉ m.path) (hfrag : '\n' ∉ m.fragment) (hstart : ∃ k ∈ ms.markers, k <+: m.fragment) :
    (f.formatLine m.display = ReportFormat.warn.render m ↔ ∀ head, ¬ EarlierHead ms m head) ∧
      (':' ∉ m.path → f.formatLine m.display = ReportFormat.warn.render m) := by
  have hend := lineEnd_not_mem_display hpath hfrag
  have htail := tail?_eq_self hblank hfrag hstart
  rw [(ofMarkers?_eq_ok_iff.mp hf).1]
  refine ⟨⟨?_, ?_⟩, ?_⟩
  · intro heq head hhead
    obtain ⟨before, number, h⟩ := EarlierHead.splitsInPath hend hhead
    exact h.formatLine_ne hend heq
  · intro h
    refine formatLine_eq_of_not_splitsInPath hend htail ?_
    intro before number hsplit
    exact h _ (hsplit.earlierHead hend)
  · intro hcolon
    refine formatLine_eq_of_not_splitsInPath hend htail ?_
    rintro before number ⟨hnumber, hlt, behind, tail, heq, _⟩
    exact hcolon (hnumber.ends_before heq hlt).1

/-- Both warnings agree on a plain path, and differ on one that holds a number in front of a marker. -/
theorem formatLine_display_eq_render_iff_standard :
    ∃ f, ofMarkers? .warn .standard = .ok f ∧
      f.formatLine (Finding.display ⟨"a".toList, 3, "TODO: x".toList⟩) =
        ReportFormat.warn.render ⟨"a".toList, 3, "TODO: x".toList⟩ ∧
      f.formatLine (Finding.display ⟨"a:7:TODO:b".toList, 3, "FIXME: x".toList⟩) ≠
        ReportFormat.warn.render ⟨"a:7:TODO:b".toList, 3, "FIXME: x".toList⟩ := by
  have hok : ofMarkers? .warn .standard = .ok ⟨.warn, .standard⟩ :=
    ofMarkers?_eq_ok_iff.mpr ⟨rfl, by decide +kernel⟩
  have hblank : ∀ k ∈ MarkerSet.standard.markers, ∀ c, k.head? = some c →
      Unicode.Property.whiteSpace.contains c = false := by
    simp only [MarkerSet.standard, List.forall_mem_cons, List.not_mem_nil, false_imp_iff, implies_true, and_true]
    refine ⟨?_, ?_⟩
    · rintro c ⟨rfl⟩
      decide
    · rintro c ⟨rfl⟩
      decide
  refine ⟨_, hok, ?_, ?_⟩
  · exact (formatLine_display_eq_render_iff hok hblank (by decide) (by decide)
      ⟨"TODO:".toList, by decide, by decide⟩).2 (by decide)
  · intro heq
    refine (formatLine_display_eq_render_iff hok hblank (by decide) (by decide)
      ⟨"FIXME:".toList, by decide, by decide⟩).1.mp heq "a:7:".toList ⟨?_, ?_, ?_, ?_⟩
    · decide
    · decide
    · exact ⟨"a".toList, ":7:".toList, ⟨['7'], by decide, List.all_eq_true.mp (by decide), rfl⟩, rfl⟩
    · exact ⟨"TODO:".toList, by decide, .inl (by decide)⟩

end Formatter

end MarkerAudit
