import MarkerAudit.Proofs.Scan

/-!
# Line ends

A line is read alike wherever it stands and however it ends. So contents can be put together at a line end, a line end
can be added behind the last line, and carriage returns can be put before the line feeds: what is found follows.
-/

namespace MarkerAudit

/-- The path below the directory leads to a file with the contents. -/
def FileSystem.HasFile (fs : FileSystem) (root : Bytes) (path : Text) (content : Bytes) : Prop :=
  fs.node (Path.join root (Utf8.encode path)) = .ok (.file content)

theorem FileSystem.HasFile.scanFile {fs : FileSystem} {root content : Bytes} {path : Text}
    (h : fs.HasFile root path content) (ms : MarkerSet) :
    fs.scanFile root path ms = .ok (Scan.contents ms path content) := by
  simp only [HasFile] at h
  simp only [FileSystem.scanFile, h]

/-- The finding with its line so many lines further down. -/
def Finding.movedDown (f : Finding) (n : Nat) : Finding := { f with line := f.line + n }

namespace Scan

open Ascii

variable {a b c line : Bytes} {ms : MarkerSet} {path : Text}

/-! ## One line after another -/

theorem lines_of_not_mem (hline : lineFeed ∉ line) (hne : line ≠ []) : lines line = [dropCarriageReturn line] := by
  simp [lines, segments_eq_splitOn, List.splitOn_eq_singleton hline, hne]

theorem lines_append_cons (hline : lineFeed ∉ line) (rest : Bytes) :
    lines (line ++ lineFeed :: rest) = dropCarriageReturn line :: lines rest := by
  have hsegments : segments lineFeed (line ++ lineFeed :: rest) = line :: segments lineFeed rest := by
    simp [segments_eq_splitOn, List.splitOn_append_cons_self, List.splitOn_eq_singleton hline]
  obtain ⟨s, segs, hrest⟩ := List.exists_cons_of_ne_nil (List.splitOn_ne_nil lineFeed rest)
  rw [← segments_eq_splitOn] at hrest
  simp only [lines, hsegments, hrest, List.getLast?_cons_cons, List.dropLast_cons_cons]
  split
  · simp
  · simp

/-- Contents are a last line without a line feed, or a line with its line feed and contents behind it. -/
@[elab_as_elim]
theorem line_induction {motive : Bytes → Prop} (last : ∀ line, lineFeed ∉ line → motive line)
    (more : ∀ line rest, lineFeed ∉ line → motive rest → motive (line ++ lineFeed :: rest)) (c : Bytes) : motive c := by
  induction hlength : c.length using Nat.strong_induction_on generalizing c with
  | _ n ih =>
      by_cases h : lineFeed ∈ c
      · obtain ⟨first, rest, rfl, hfirst⟩ := List.eq_append_cons_of_mem h
        exact more first rest hfirst (ih rest.length (by simp at hlength; omega) rest rfl)
      · exact last c h

theorem endsAt_append_cons {sep : UInt8} {rest : Bytes} : EndsAt sep (line ++ sep :: rest) ↔ EndsAt sep rest := by
  cases rest with
  | nil => simp [EndsAt]
  | cons x rest => simp [EndsAt, List.getLast?_append]

theorem EndsAt.eq_nil (ha : EndsAt lineFeed a) (hfeed : lineFeed ∉ a) : a = [] := by
  rcases ha with rfl | hlast
  · rfl
  · exact absurd (List.mem_of_getLast? hlast) hfeed

/-- Contents that are put together at a line end have the lines of both. -/
theorem lines_append (ha : EndsAt lineFeed a) (b : Bytes) : lines (a ++ b) = lines a ++ lines b := by
  induction a using line_induction with
  | last line hline =>
      cases ha.eq_nil hline
      rfl
  | more line rest hline ih =>
      have hrest := ih (endsAt_append_cons.mp ha)
      simp [lines_append_cons hline, hrest]

theorem length_lines (ha : EndsAt lineFeed a) : (lines a).length = a.count lineFeed := by
  induction a using line_induction with
  | last line hline =>
      cases ha.eq_nil hline
      rfl
  | more line rest hline ih =>
      have hrest := ih (endsAt_append_cons.mp ha)
      simp [lines_append_cons hline, hrest, List.count_eq_zero.mpr hline]

/-- A line feed at the end ends the last line, or else makes an empty one. -/
theorem lines_concat_lineFeed (c : Bytes) :
    lines (c ++ [lineFeed]) = lines c ∨ lines (c ++ [lineFeed]) = lines c ++ [[]] := by
  induction c using line_induction with
  | last line hline =>
      rw [lines_append_cons hline]
      cases line with
      | nil => exact .inr rfl
      | cons x line => exact .inl (lines_of_not_mem hline (List.cons_ne_nil x line)).symm
  | more line rest hline ih =>
      rw [List.append_assoc, List.cons_append, lines_append_cons hline, lines_append_cons hline]
      rcases ih with h | h
      · exact .inl (by rw [h])
      · exact .inr (by rw [h, List.cons_append])

/-! ## Findings on lines -/

/-- What is found on lines whose numbers start with the given one. -/
def onLines (ms : MarkerSet) (path : Text) (ls : List Bytes) (first : Nat) : List Finding :=
  (ls.zipIdx first).filterMap fun (line, number) => finding? ms path line number

theorem contents_eq_onLines (h : isBinary c = false) : contents ms path c = onLines ms path (lines c) 1 := by
  simp [contents, onLines, h]

theorem onLines_append (ls ls' : List Bytes) (first : Nat) :
    onLines ms path (ls ++ ls') first = onLines ms path ls first ++ onLines ms path ls' (first + ls.length) := by
  simp [onLines, List.zipIdx_append]

theorem finding?_add (line : Bytes) (number n : Nat) :
    finding? ms path line (number + n) = (finding? ms path line number).map (·.movedDown n) := by
  simp [finding?, Function.comp_def, Finding.movedDown]

theorem onLines_add (ls : List Bytes) (first n : Nat) :
    onLines ms path ls (first + n) = (onLines ms path ls first).map (·.movedDown n) := by
  simp only [onLines, Nat.add_comm first n, ← List.map_snd_add_zipIdx_eq_zipIdx, List.filterMap_map,
    List.map_filterMap, Function.comp_def, Prod.map, id, finding?_add]

theorem finding?_nil (number : Nat) : finding? ms path [] number = none := by
  have hnone : ms.find? [] = none := by
    rw [MarkerSet.find?_eq_none_iff]
    intro i h
    exact absurd (h.lt_length ms.noEmptyMarker) (Nat.not_lt_zero i)
  simp [finding?, Utf8.decode_nil, hnone]

theorem onLines_concat_nil (ls : List Bytes) (first : Nat) :
    onLines ms path (ls ++ [[]]) first = onLines ms path ls first := by
  rw [onLines_append]
  simp [onLines, finding?_nil]

/-! ## Contents put together -/

theorem contents_append (ha : EndsAt lineFeed a) (hwhole : 0 ∉ (a ++ b).take 8192) (hb : 0 ∉ b.take 8192) :
    contents ms path (a ++ b) = contents ms path a ++ (contents ms path b).map (·.movedDown (a.count lineFeed)) := by
  have hfirst : 0 ∉ a.take 8192 := by
    rw [List.take_append] at hwhole
    exact fun h => hwhole (List.mem_append_left _ h)
  rw [← isBinary_eq_false_iff] at hwhole hb hfirst
  rw [contents_eq_onLines hwhole, contents_eq_onLines hfirst, contents_eq_onLines hb, lines_append ha, onLines_append,
    onLines_add, length_lines ha]

theorem isBinary_concat_lineFeed (c : Bytes) : isBinary (c ++ [lineFeed]) = isBinary c := by
  have hfeed : 0 ∉ [lineFeed].take (8192 - c.length) := by
    intro h
    exact absurd (List.mem_of_mem_take h) (by simp [lineFeed])
  simp [isBinary, sniffLength, List.take_append, hfeed]

theorem contents_concat_lineFeed (c : Bytes) : contents ms path (c ++ [lineFeed]) = contents ms path c := by
  have hbinary := isBinary_concat_lineFeed c
  cases h : isBinary c with
  | true => simp [contents, hbinary, h]
  | false =>
      rw [contents_eq_onLines h, contents_eq_onLines (hbinary.trans h)]
      rcases lines_concat_lineFeed c with hlines | hlines
      · rw [hlines]
      · rw [hlines, onLines_concat_nil]

/-- Scanning a file finds what its contents hold. In contents that are put together at a line end, and of which neither
the whole nor the second part is binary, this is what the first part holds and then what the second holds, so many lines
further down as line feeds stand before it. A line feed at the end changes nothing. -/
theorem scanFile_concatenated (ms : MarkerSet) (path : Text) :
    (∀ fs root c, FileSystem.HasFile fs root path c → fs.scanFile root path ms = .ok (contents ms path c)) ∧
      (∀ a b, EndsAt lineFeed a → 0 ∉ (a ++ b).take 8192 → 0 ∉ b.take 8192 →
        contents ms path (a ++ b) =
          contents ms path a ++ (contents ms path b).map fun f => { f with line := f.line + a.count lineFeed }) ∧
      ∀ c, contents ms path (c ++ [lineFeed]) = contents ms path c := by
  refine ⟨?_, ?_, contents_concat_lineFeed⟩
  · intro fs root c h
    exact h.scanFile ms
  · intro a b ha hwhole hb
    exact contents_append ha hwhole hb

/-- Behind a line of the first part, and an empty line, what the second part holds is found two lines further down, and
it is found with a line feed at the end too. -/
theorem scanFile_concatenated_two_down :
    contents .standard ['a'] ([0x78, lineFeed, lineFeed] ++ [0x54, 0x4F, 0x44, 0x4F, 0x3A, carriageReturn]) =
        [⟨['a'], 3, "TODO:".toList⟩] ∧
      contents .standard ['a'] ([0x54, 0x4F, 0x44, 0x4F, 0x3A, carriageReturn] ++ [lineFeed]) =
        [⟨['a'], 1, "TODO:".toList⟩] := by
  obtain ⟨_, happend, hconcat⟩ := scanFile_concatenated .standard ['a']
  have hfirst : contents .standard ['a'] [0x78, lineFeed, lineFeed] = [] := by decide
  have hsecond : contents .standard ['a'] [0x54, 0x4F, 0x44, 0x4F, 0x3A, carriageReturn] =
      [⟨['a'], 1, "TODO:".toList⟩] := by decide
  refine ⟨?_, (hconcat _).trans hsecond⟩
  rw [happend _ _ (.inr rfl) (by decide) (by decide), hfirst, hsecond]
  rfl

/-! ## Carriage returns -/

/-- The contents with a carriage return before each line feed. -/
def withCarriageReturns (c : Bytes) : Bytes :=
  c.flatMap fun b => if b = lineFeed then [carriageReturn, lineFeed] else [b]

theorem withCarriageReturns_cons_lineFeed (c : Bytes) :
    withCarriageReturns (lineFeed :: c) = carriageReturn :: lineFeed :: withCarriageReturns c := rfl

theorem withCarriageReturns_cons {b : UInt8} (hb : b ≠ lineFeed) (c : Bytes) :
    withCarriageReturns (b :: c) = b :: withCarriageReturns c := by
  simp [withCarriageReturns, hb]

theorem withCarriageReturns_append (hline : lineFeed ∉ line) (rest : Bytes) :
    withCarriageReturns (line ++ rest) = line ++ withCarriageReturns rest := by
  induction line with
  | nil => rfl
  | cons b line ih =>
      rw [List.mem_cons, not_or] at hline
      rw [List.cons_append, withCarriageReturns_cons (Ne.symm hline.1), ih hline.2, List.cons_append]

theorem lines_withCarriageReturns (h : ¬ [carriageReturn, lineFeed] <:+: c) :
    lines (withCarriageReturns c) = lines c := by
  induction c using line_induction with
  | last line hline =>
      have hself := withCarriageReturns_append hline []
      rw [List.append_nil] at hself
      rw [hself, withCarriageReturns, List.flatMap_nil, List.append_nil]
  | more line rest hline ih =>
      have hrest : ¬ [carriageReturn, lineFeed] <:+: rest := by
        intro hpair
        exact h (hpair.trans ⟨line ++ [lineFeed], [], by simp⟩)
      -- the carriage return that is left out is the new one, since the line had none at its end
      have hlast : line.getLast? ≠ some carriageReturn := by
        intro hlast
        obtain ⟨before, rfl⟩ := List.getLast?_eq_some_iff.mp hlast
        exact h ⟨before, rest, by simp⟩
      have hline' : lineFeed ∉ line ++ [carriageReturn] := by
        simp [hline, lineFeed, carriageReturn]
      have hwith : withCarriageReturns (line ++ lineFeed :: rest) =
          (line ++ [carriageReturn]) ++ lineFeed :: withCarriageReturns rest := by
        simp [withCarriageReturns_append hline, withCarriageReturns_cons_lineFeed]
      rw [hwith, lines_append_cons hline', lines_append_cons hline, ih hrest,
        dropCarriageReturn_eq_iff.mpr (.inl rfl), dropCarriageReturn_eq_iff.mpr (.inr ⟨rfl, hlast⟩)]

/-- No byte comes nearer to the start. -/
theorem mem_take_of_mem_take_withCarriageReturns {n : Nat} (h : 0 ∈ (withCarriageReturns c).take n) :
    0 ∈ c.take n := by
  induction c generalizing n with
  | nil => simp [withCarriageReturns] at h
  | cons b c ih =>
      cases n with
      | zero => simp at h
      | succ n =>
          by_cases hb : b = lineFeed
          · subst hb
            rw [withCarriageReturns_cons_lineFeed] at h
            cases n with
            | zero => simp [carriageReturn] at h
            | succ n =>
                simp [carriageReturn, lineFeed] at h
                have hlater := List.take_subset_take_left c (Nat.le_succ n) (ih h)
                exact List.mem_cons_of_mem lineFeed hlater
          · rw [withCarriageReturns_cons hb, List.take_succ_cons, List.mem_cons] at h
            rcases h with rfl | h
            · exact List.mem_cons_self
            · exact List.mem_cons_of_mem b (ih h)

theorem contents_withCarriageReturns (hzero : 0 ∉ c.take 8192) (h : ¬ [carriageReturn, lineFeed] <:+: c) :
    contents ms path (withCarriageReturns c) = contents ms path c := by
  have hzero' : 0 ∉ (withCarriageReturns c).take 8192 := fun hmem =>
    hzero (mem_take_of_mem_take_withCarriageReturns hmem)
  rw [← isBinary_eq_false_iff] at hzero hzero'
  rw [contents_eq_onLines hzero, contents_eq_onLines hzero', lines_withCarriageReturns h]

/-- In a file that is not binary and whose line feeds have no carriage return before them, the same is found once each
of them has one. -/
theorem scanFile_withCarriageReturns {fs fs' : FileSystem} {root root' : Bytes} (hfile : fs.HasFile root path c)
    (hfile' : fs'.HasFile root' path (withCarriageReturns c)) (hzero : 0 ∉ c.take 8192)
    (h : ¬ [carriageReturn, lineFeed] <:+: c) :
    ∃ found, fs.scanFile root path ms = .ok found ∧ fs'.scanFile root' path ms = .ok found := by
  refine ⟨contents ms path c, hfile.scanFile ms, ?_⟩
  rw [hfile'.scanFile, contents_withCarriageReturns hzero h]

/-- A line that starts with a carriage return, and behind its line feed a line that ends in one without a line feed. -/
def strayReturns : Bytes := [carriageReturn, 0x54, 0x4F, 0x44, 0x4F, 0x3A, lineFeed, 0x78, carriageReturn]

/-- A marker that starts with a carriage return itself is found on either side. -/
theorem scanFile_withCarriageReturns_stray :
    ∃ ms : MarkerSet, ms.markers = ["\rTODO:".toList] ∧
      FileSystem.scanFile ⟨.directory [([0x61], .file strayReturns)], []⟩ [period] ['a'] ms =
        .ok [⟨['a'], 1, "\rTODO:".toList⟩] ∧
      FileSystem.scanFile ⟨.directory [([0x61], .file (withCarriageReturns strayReturns))], []⟩ [period] ['a'] ms =
        .ok [⟨['a'], 1, "\rTODO:".toList⟩] := by
  have hfile : FileSystem.HasFile ⟨.directory [([0x61], .file strayReturns)], []⟩ [period] ['a'] strayReturns := rfl
  have hscan : FileSystem.scanFile ⟨.directory [([0x61], .file strayReturns)], []⟩ [period] ['a']
      ⟨["\rTODO:".toList], by decide, by decide⟩ = .ok [⟨['a'], 1, "\rTODO:".toList⟩] := by
    rw [hfile.scanFile]
    decide
  obtain ⟨found, hfound, hfound'⟩ := @scanFile_withCarriageReturns strayReturns
    ⟨["\rTODO:".toList], by decide, by decide⟩ ['a'] _
    ⟨.directory [([0x61], .file (withCarriageReturns strayReturns))], []⟩ [period] [period] hfile rfl (by decide)
    (by decide)
  refine ⟨_, rfl, hscan, ?_⟩
  rw [hfound', ← hfound, hscan]

end Scan
end MarkerAudit
