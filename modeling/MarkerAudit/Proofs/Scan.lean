import MarkerAudit.Candidates
import MarkerAudit.Proofs.MarkerSet

/-!
# What scanning finds

Lines are told apart by the bytes of a file, and markers by the bytes of a line. Decoding comes between the two, but
it starts anew at the first byte of a marker, so that no byte around a marker hides it or makes one up.
-/

namespace MarkerAudit.Scan

open Ascii
open MarkerSet (BytesAt)

/-! ## Segments -/

theorem segments_cons (sep : UInt8) (x : UInt8) (xs : Bytes) :
    segments sep (x :: xs) = if x = sep then [] :: segments sep xs else (segments sep xs).modifyHead (x :: ·) := by
  simp [segments_eq_splitOn, List.splitOn_cons_eq_if_modifyHead]

theorem length_segments (sep : UInt8) (xs : Bytes) : (segments sep xs).length = xs.count sep + 1 := by
  induction xs with
  | nil => rfl
  | cons x xs ih =>
      rw [segments_cons, List.count_cons]
      split
      · rename_i h
        simp [h, ih]
      · rename_i h
        simp [h, ih]

/-- The bytes end at the start of a segment: there is nothing or a separator right before it. -/
def EndsAt (sep : UInt8) (before : Bytes) : Prop := before = [] ∨ before.getLast? = some sep

theorem endsAt_cons {sep x : UInt8} {before : Bytes} :
    EndsAt sep (x :: before) ↔ EndsAt sep before ∧ (before = [] → x = sep) := by
  cases before with
  | nil => simp [EndsAt]
  | cons y ys => simp [EndsAt, List.getLast?_cons]

/-- The segment behind `k` separators, and what stands behind it. -/
def IsSegment (sep : UInt8) (xs : Bytes) (k : Nat) (segment after : Bytes) : Prop :=
  ∃ before, xs = before ++ segment ++ after ∧ before.count sep = k ∧ EndsAt sep before ∧ sep ∉ segment ∧
    (after = [] ∨ after.head? = some sep)

theorem isSegment_zero {sep : UInt8} {xs segment after : Bytes} :
    IsSegment sep xs 0 segment after ↔
      xs = segment ++ after ∧ sep ∉ segment ∧ (after = [] ∨ after.head? = some sep) := by
  constructor
  · rintro ⟨before, rfl, hcount, hend, hseg, hafter⟩
    rcases hend with rfl | hlast
    · exact ⟨rfl, hseg, hafter⟩
    · exact absurd (List.mem_of_getLast? hlast) (List.count_eq_zero.mp hcount)
  · rintro ⟨rfl, hseg, hafter⟩
    exact ⟨[], rfl, rfl, .inl rfl, hseg, hafter⟩

theorem isSegment_succ {sep x : UInt8} {xs segment after : Bytes} {k : Nat} :
    IsSegment sep (x :: xs) (k + 1) segment after ↔
      IsSegment sep xs (if x = sep then k else k + 1) segment after := by
  constructor
  · rintro ⟨before, heq, hcount, hend, hrest⟩
    cases before with
    | nil => cases hcount
    | cons y before =>
        rw [List.cons_append, List.cons_append, List.cons.injEq] at heq
        obtain ⟨rfl, rfl⟩ := heq
        refine ⟨before, rfl, ?_, (endsAt_cons.mp hend).1, hrest⟩
        rw [List.count_cons] at hcount
        split <;> simp_all
  · rintro ⟨before, rfl, hcount, hend, hrest⟩
    refine ⟨x :: before, rfl, ?_, endsAt_cons.mpr ⟨hend, ?_⟩, hrest⟩
    · rw [List.count_cons, hcount]
      split <;> simp_all
    · rintro rfl
      split at hcount
      · assumption
      · cases hcount

theorem isSegment_zero_cons_self {sep : UInt8} {xs segment after : Bytes} :
    IsSegment sep (sep :: xs) 0 segment after ↔ segment = [] ∧ after = sep :: xs := by
  rw [isSegment_zero]
  constructor
  · rintro ⟨heq, hseg, _⟩
    cases segment with
    | nil => exact ⟨rfl, heq.symm⟩
    | cons y segment =>
        rw [List.cons_append, List.cons.injEq] at heq
        exact absurd (heq.1 ▸ List.mem_cons_self) hseg
  · rintro ⟨rfl, rfl⟩
    exact ⟨rfl, List.not_mem_nil, .inr rfl⟩

theorem isSegment_zero_cons {sep x : UInt8} {xs segment after : Bytes} (hx : x ≠ sep) :
    IsSegment sep (x :: xs) 0 segment after ↔ ∃ s, segment = x :: s ∧ IsSegment sep xs 0 s after := by
  simp only [isSegment_zero]
  constructor
  · rintro ⟨heq, hseg, hafter⟩
    cases segment with
    | nil =>
        rw [List.nil_append] at heq
        subst heq
        rcases hafter with hnil | hhead
        · cases hnil
        · exact absurd (Option.some.inj hhead) hx
    | cons y segment =>
        rw [List.cons_append, List.cons.injEq] at heq
        exact ⟨segment, by rw [heq.1], heq.2, fun hm => hseg (List.mem_cons_of_mem _ hm), hafter⟩
  · rintro ⟨s, rfl, rfl, hs, hafter⟩
    exact ⟨rfl, List.not_mem_cons_of_ne_of_not_mem (Ne.symm hx) hs, hafter⟩

theorem getElem?_segments {sep : UInt8} {xs segment : Bytes} {k : Nat} :
    (segments sep xs)[k]? = some segment ↔ ∃ after, IsSegment sep xs k segment after := by
  induction xs generalizing k segment with
  | nil =>
      cases k with
      | zero =>
          simp only [isSegment_zero, segments, List.foldr_nil, List.getElem?_cons_zero, Option.some.injEq]
          constructor
          · rintro rfl
            exact ⟨[], rfl, List.not_mem_nil, .inl rfl⟩
          · rintro ⟨after, heq, _⟩
            exact (List.append_eq_nil_iff.mp heq.symm).1.symm
      | succ k => simp [segments, IsSegment]
  | cons x xs ih =>
      rw [segments_cons]
      cases k with
      | zero =>
          split
          · rename_i hx
            simp [hx, isSegment_zero_cons_self, eq_comm]
          · rename_i hx
            simp only [List.getElem?_modifyHead_zero, Option.map_eq_some_iff, ih, isSegment_zero_cons hx]
            constructor
            · rintro ⟨s, ⟨after, h⟩, rfl⟩
              exact ⟨after, s, rfl, h⟩
            · rintro ⟨after, s, rfl, h⟩
              exact ⟨s, ⟨after, h⟩, rfl⟩
      | succ k =>
          simp only [isSegment_succ]
          split
          · rw [List.getElem?_cons_succ, ih]
          · rw [List.getElem?_modifyHead_succ, ih]

/-- The last segment is the one with nothing behind it. -/
theorem IsSegment.after_eq_nil_iff {sep : UInt8} {xs segment after : Bytes} {k : Nat}
    (h : IsSegment sep xs k segment after) : after = [] ↔ k = xs.count sep := by
  obtain ⟨before, rfl, rfl, _, hseg, hafter⟩ := h
  rw [List.count_append, List.count_append, List.count_eq_zero.mpr hseg]
  rcases hafter with rfl | hhead
  · simp
  · have hpos : 0 < after.count sep := List.count_pos_iff.mpr (List.mem_of_mem_head? hhead)
    constructor
    · rintro rfl
      cases hhead
    · intro he
      omega

/-! ## Lines -/

theorem dropCarriageReturn_eq_iff {segment line : Bytes} :
    dropCarriageReturn segment = line ↔
      segment = line ++ [carriageReturn] ∨ segment = line ∧ segment.getLast? ≠ some carriageReturn := by
  unfold dropCarriageReturn
  split
  · rename_i h
    constructor
    · rintro rfl
      exact .inl (List.dropLast_append_getLast? _ h).symm
    · rintro (rfl | ⟨_, hne⟩)
      · rw [List.dropLast_concat]
      · exact absurd h hne
  · rename_i h
    constructor
    · rintro rfl
      exact .inr ⟨rfl, h⟩
    · rintro (rfl | ⟨rfl, _⟩)
      · exact absurd List.getLast?_concat h
      · rfl

/-- The bytes are the line with the given number: they stand between line feeds, or between one and the end of the
contents if there is anything behind it, and one carriage return at their end is left out. -/
def IsLine (content : Bytes) (number : Nat) (line : Bytes) : Prop :=
  ∃ k segment after, number = k + 1 ∧ IsSegment lineFeed content k segment after ∧ (segment = [] → after ≠ []) ∧
    (segment = line ++ [carriageReturn] ∨ segment = line ∧ segment.getLast? ≠ some carriageReturn)

theorem getElem?_ended {content segment : Bytes} {k : Nat} :
    (if (segments lineFeed content).getLast? = some [] then (segments lineFeed content).dropLast
      else segments lineFeed content)[k]? = some segment ↔
      ∃ after, IsSegment lineFeed content k segment after ∧ (segment = [] → after ≠ []) := by
  have hlast : (segments lineFeed content).getLast? = (segments lineFeed content)[content.count lineFeed]? := by
    rw [List.getLast?_eq_getElem?, length_segments, Nat.add_sub_cancel]
  rw [hlast]
  -- the last segment is left out just when it is empty, and just it has nothing behind it
  split
  · rename_i hempty
    rw [List.getElem?_dropLast, length_segments, Nat.add_sub_cancel]
    split
    · rename_i hk
      rw [getElem?_segments]
      constructor
      · rintro ⟨after, h⟩
        refine ⟨after, h, fun _ hnil => ?_⟩
        have := h.after_eq_nil_iff.mp hnil
        omega
      · rintro ⟨after, h, _⟩
        exact ⟨after, h⟩
    · rename_i hk
      simp only [reduceCtorEq, false_iff]
      rintro ⟨after, h, hne⟩
      have hget := getElem?_segments.mpr ⟨after, h⟩
      have hlen : k < content.count lineFeed + 1 := by
        rw [← length_segments]
        exact (List.getElem?_eq_some_iff.mp hget).1
      have hk' : k = content.count lineFeed := by omega
      rw [hk', hempty] at hget
      exact hne (Option.some.inj hget).symm (h.after_eq_nil_iff.mpr hk')
  · rename_i hfull
    rw [getElem?_segments]
    constructor
    · rintro ⟨after, h⟩
      refine ⟨after, h, fun hnil hafter => ?_⟩
      have hk := h.after_eq_nil_iff.mp hafter
      exact hfull (by rw [← hk, getElem?_segments.mpr ⟨after, h⟩, hnil])
    · rintro ⟨after, h, _⟩
      exact ⟨after, h⟩

/-- Lines are counted from one. -/
theorem isLine_iff {content line : Bytes} {number : Nat} :
    IsLine content number line ↔ ∃ k, number = k + 1 ∧ (lines content)[k]? = some line := by
  simp only [lines, List.getElem?_map, Option.map_eq_some_iff, getElem?_ended, dropCarriageReturn_eq_iff]
  constructor
  · rintro ⟨k, segment, after, rfl, h, hne, hline⟩
    exact ⟨k, rfl, segment, ⟨after, h, hne⟩, hline⟩
  · rintro ⟨k, rfl, segment, ⟨after, h, hne⟩, hline⟩
    exact ⟨k, segment, after, rfl, h, hne, hline⟩

theorem IsLine.unique {content line line' : Bytes} {number : Nat} (h : IsLine content number line)
    (h' : IsLine content number line') : line = line' := by
  obtain ⟨k, rfl, hget⟩ := isLine_iff.mp h
  obtain ⟨k', hk, hget'⟩ := isLine_iff.mp h'
  rw [← Nat.add_right_cancel hk, hget] at hget'
  exact Option.some.inj hget'

/-! ## Findings -/

theorem finding?_eq_some_iff {ms : MarkerSet} {path : Text} {raw : Bytes} {number : Nat} {f : Finding} :
    finding? ms path raw number = some f ↔ f.path = path ∧ f.line = number ∧
      ∃ i, ms.find? (Utf8.decode raw) = some i ∧ f.fragment = (Utf8.decode raw).drop i := by
  rw [finding?, Option.map_eq_some_iff]
  constructor
  · rintro ⟨i, hi, rfl⟩
    exact ⟨rfl, rfl, i, hi, rfl⟩
  · rintro ⟨rfl, rfl, i, hi, hfrag⟩
    exact ⟨i, hi, by rw [← hfrag]⟩

/-- The finding on a line begins where the bytes of a marker occur first. -/
theorem finding?_eq_some_iff_bytesAt {ms : MarkerSet} {path : Text} {raw : Bytes} {number : Nat} {f : Finding}
    (hrepl : ∀ m ∈ ms.markers, Utf8.replacement ∉ m) :
    finding? ms path raw number = some f ↔ f.path = path ∧ f.line = number ∧
      ∃ o, IsLeast { o | BytesAt ms.markers raw o } o ∧ f.fragment = Utf8.decode (raw.drop o) := by
  rw [finding?_eq_some_iff]
  simp only [MarkerSet.find?_decode_eq_some_iff hrepl]
  constructor
  · rintro ⟨hpath, hline, _, ⟨o, ho, rfl⟩, hfrag⟩
    exact ⟨hpath, hline, o, ho, by rw [hfrag, ho.1.drop_decode ms.noEmptyMarker]⟩
  · rintro ⟨hpath, hline, o, ho, hfrag⟩
    exact ⟨hpath, hline, _, ⟨o, ho, rfl⟩, by rw [hfrag, ho.1.drop_decode ms.noEmptyMarker]⟩

theorem isBinary_eq_false_iff {content : Bytes} : isBinary content = false ↔ 0 ∉ content.take 8192 := by
  simp [isBinary, sniffLength]

/-- What is found in contents that are not binary is what is found on their lines. -/
theorem mem_contents_iff {ms : MarkerSet} {path : Text} {content : Bytes} {f : Finding} :
    f ∈ contents ms path content ↔ 0 ∉ content.take 8192 ∧
      ∃ raw, IsLine content f.line raw ∧ finding? ms path raw f.line = some f := by
  unfold contents
  split
  · rename_i h
    have hzero : ¬ 0 ∉ content.take 8192 := by
      rw [← isBinary_eq_false_iff, h]
      exact Bool.noConfusion
    simp [hzero]
  · rename_i h
    rw [Bool.not_eq_true, isBinary_eq_false_iff] at h
    simp only [List.mem_filterMap, Prod.exists, List.mk_mem_zipIdx_iff_le_and_getElem?_sub, isLine_iff]
    constructor
    · rintro ⟨raw, number, ⟨hle, hget⟩, hf⟩
      obtain ⟨_, rfl, _⟩ := finding?_eq_some_iff.mp hf
      exact ⟨h, raw, ⟨f.line - 1, by omega, hget⟩, hf⟩
    · rintro ⟨_, raw, ⟨k, hk, hget⟩, hf⟩
      exact ⟨raw, f.line, ⟨by omega, by simpa [hk] using hget⟩, hf⟩

theorem pairwise_zipIdx {α : Type} (xs : List α) (n : Nat) : (xs.zipIdx n).Pairwise fun a b => a.2 < b.2 := by
  induction xs generalizing n with
  | nil => exact .nil
  | cons x xs ih =>
      rw [List.zipIdx_cons]
      refine .cons ?_ (ih (n + 1))
      intro b hb
      exact List.le_snd_of_mem_zipIdx hb

/-- Findings come in the order of their lines, at most one for each. -/
theorem contents_pairwise (ms : MarkerSet) (path : Text) (content : Bytes) :
    (contents ms path content).Pairwise fun f g => f.line < g.line := by
  unfold contents
  split
  · exact .nil
  · refine List.Pairwise.filterMap _ ?_ (pairwise_zipIdx (lines content) 1)
    rintro ⟨raw, n⟩ ⟨raw', n'⟩ hlt f hf g hg
    obtain ⟨_, rfl, _⟩ := finding?_eq_some_iff.mp hf
    obtain ⟨_, rfl, _⟩ := finding?_eq_some_iff.mp hg
    exact hlt

/-! ## Files -/

/-- The least offset of a marker exists as soon as a marker's bytes are part of the line. -/
theorem exists_isLeast_bytesAt {ms : MarkerSet} {raw : Bytes} (hrepl : ∀ m ∈ ms.markers, Utf8.replacement ∉ m) :
    (∃ o, IsLeast { o | BytesAt ms.markers raw o } o) ↔ ∃ m ∈ ms.markers, Utf8.encode m <:+: raw := by
  constructor
  · rintro ⟨o, ⟨m, hm, hpre⟩, _⟩
    exact ⟨m, hm, hpre.isInfix.trans (List.drop_suffix o raw).isInfix⟩
  · rintro ⟨m, hm, before, after, rfl⟩
    have hat : BytesAt ms.markers (before ++ Utf8.encode m ++ after) before.length :=
      ⟨m, hm, after, by rw [List.append_assoc, List.drop_left]⟩
    have hocc := hat.occursAt ms.noEmptyMarker
    cases hf : ms.find? (Utf8.decode (before ++ Utf8.encode m ++ after)) with
    | none => exact absurd hocc (MarkerSet.find?_eq_none_iff.mp hf _)
    | some i =>
        obtain ⟨o, ho, _⟩ := (MarkerSet.find?_decode_eq_some_iff hrepl).mp hf
        exact ⟨o, ho⟩

/-- Scanning a file that is not binary reports just the lines whose bytes hold a marker, each from the least offset of
a marker on, whatever other bytes there are. -/
theorem scanFile_lossless {fs : FileSystem} {root content : Bytes} {path : Text} {ms : MarkerSet}
    (hfile : fs.node (Path.join root (Utf8.encode path)) = .ok (.file content)) (htext : 0 ∉ content.take 8192)
    (hrepl : ∀ m ∈ ms.markers, Utf8.replacement ∉ m) :
    ∃ found, fs.scanFile root path ms = .ok found ∧ found.Pairwise (fun f g => f.line < g.line) ∧
      (∀ f, f ∈ found ↔ f.path = path ∧ ∃ raw o, IsLine content f.line raw ∧
        IsLeast { o | BytesAt ms.markers raw o } o ∧ f.fragment = Utf8.decode (raw.drop o)) ∧
      ∀ number raw, IsLine content number raw →
        ((∃ f ∈ found, f.line = number) ↔ ∃ m ∈ ms.markers, Utf8.encode m <:+: raw) := by
  have hmem : ∀ f, f ∈ contents ms path content ↔ f.path = path ∧ ∃ raw o, IsLine content f.line raw ∧
      IsLeast { o | BytesAt ms.markers raw o } o ∧ f.fragment = Utf8.decode (raw.drop o) := by
    intro f
    simp only [mem_contents_iff, finding?_eq_some_iff_bytesAt hrepl]
    constructor
    · rintro ⟨_, raw, hline, hpath, _, o, ho, hfrag⟩
      exact ⟨hpath, raw, o, hline, ho, hfrag⟩
    · rintro ⟨hpath, raw, o, hline, ho, hfrag⟩
      exact ⟨htext, raw, hline, hpath, trivial, o, ho, hfrag⟩
  refine ⟨contents ms path content, by simp only [FileSystem.scanFile, hfile], contents_pairwise ms path content,
    hmem, ?_⟩
  intro number raw hline
  rw [← exists_isLeast_bytesAt hrepl]
  constructor
  · rintro ⟨f, hf, rfl⟩
    obtain ⟨_, raw', o, hline', ho, _⟩ := (hmem f).mp hf
    rw [hline.unique hline']
    exact ⟨o, ho⟩
  · rintro ⟨o, ho⟩
    exact ⟨⟨path, number, Utf8.decode (raw.drop o)⟩, (hmem _).mpr ⟨rfl, raw, o, hline, ho, rfl⟩, rfl⟩

/-- A sequence that breaks off right before a marker, and one that breaks off behind it, leave the marker alone. -/
theorem scanFile_lossless_broken_off :
    ∃ found, FileSystem.scanFile
        ⟨.directory [([0x61], .file [0x61, 0x0A, 0xE2, 0x82, 0x54, 0x4F, 0x44, 0x4F, 0x3A, 0xF0])], []⟩
        [period] ['a'] .standard = .ok found ∧ ⟨['a'], 2, "TODO:\uFFFD".toList⟩ ∈ found := by
  obtain ⟨found, hfound, _, hmem, _⟩ := @scanFile_lossless
    ⟨.directory [([0x61], .file [0x61, 0x0A, 0xE2, 0x82, 0x54, 0x4F, 0x44, 0x4F, 0x3A, 0xF0])], []⟩ [period]
    [0x61, 0x0A, 0xE2, 0x82, 0x54, 0x4F, 0x44, 0x4F, 0x3A, 0xF0] ['a'] .standard rfl (by decide) (by decide)
  refine ⟨found, hfound, (hmem _).mpr ⟨rfl, [0xE2, 0x82, 0x54, 0x4F, 0x44, 0x4F, 0x3A, 0xF0], 2, ?_, ⟨?_, ?_⟩, ?_⟩⟩
  · exact isLine_iff.mpr ⟨1, rfl, by decide⟩
  · exact show BytesAt _ _ _ by decide
  · rintro o ho
    match o with
    | 0 => exact absurd ho (show ¬ BytesAt _ _ _ by decide)
    | 1 => exact absurd ho (show ¬ BytesAt _ _ _ by decide)
    | o + 2 => exact Nat.le_add_left 2 o
  · decide

end MarkerAudit.Scan
