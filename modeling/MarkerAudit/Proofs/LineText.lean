import MarkerAudit.Proofs.Scan

/-!
# Scanning line by line

A line reads as a text: its bytes without a carriage return at their end, decoded. What is found in a file follows from
the texts of its lines, one finding for each that holds a marker.
-/

namespace MarkerAudit.Scan

open Ascii
open MarkerSet (OccursAt)

variable {content raw : Bytes} {number : Nat} {path text : Text} {ms : MarkerSet} {f : Finding}

/-! ## Texts of lines -/

/-- The line with the given number reads as the text: it is what the bytes between two line feeds, or between one and an
end of the contents, decode to without one carriage return at their end. -/
def ReadsAs (content : Bytes) (number : Nat) (text : Text) : Prop :=
  ∃ k segment after raw, number = k + 1 ∧ IsSegment lineFeed content k segment after ∧
    (segment = raw ++ [carriageReturn] ∨ segment = raw ∧ segment.getLast? ≠ some carriageReturn) ∧
    text = Utf8.decode raw

theorem readsAs_iff : ReadsAs content number text ↔
    ∃ k segment, number = k + 1 ∧ (segments lineFeed content)[k]? = some segment ∧
      text = Utf8.decode (dropCarriageReturn segment) := by
  simp only [getElem?_segments]
  constructor
  · rintro ⟨k, segment, after, raw, rfl, hsegment, hraw, rfl⟩
    exact ⟨k, segment, rfl, ⟨after, hsegment⟩, by rw [dropCarriageReturn_eq_iff.mpr hraw]⟩
  · rintro ⟨k, segment, rfl, ⟨after, hsegment⟩, rfl⟩
    exact ⟨k, segment, after, _, rfl, hsegment, dropCarriageReturn_eq_iff.mp rfl, rfl⟩

theorem ReadsAs.unique {text' : Text} (h : ReadsAs content number text) (h' : ReadsAs content number text') :
    text = text' := by
  obtain ⟨k, segment, rfl, hget, rfl⟩ := readsAs_iff.mp h
  obtain ⟨k', segment', hk, hget', rfl⟩ := readsAs_iff.mp h'
  rw [← Nat.add_right_cancel hk, hget] at hget'
  rw [Option.some.inj hget']

theorem IsLine.readsAs (h : IsLine content number raw) : ReadsAs content number (Utf8.decode raw) := by
  obtain ⟨k, segment, after, hnumber, hsegment, _, hraw⟩ := h
  exact ⟨k, segment, after, raw, hnumber, hsegment, hraw, rfl⟩

/-- Only what stands behind the last line feed may be no line, and then it reads as nothing. -/
theorem ReadsAs.exists_isLine (h : ReadsAs content number text) (hne : text ≠ []) :
    ∃ raw, IsLine content number raw ∧ text = Utf8.decode raw := by
  obtain ⟨k, segment, after, raw, hnumber, hsegment, hraw, rfl⟩ := h
  refine ⟨raw, ⟨k, segment, after, hnumber, hsegment, ?_, hraw⟩, rfl⟩
  rintro rfl
  rcases hraw with hend | ⟨rfl, _⟩
  · simp at hend
  · exact absurd Utf8.decode_nil hne

theorem ReadsAs.lineEnd_not_mem (h : ReadsAs content number text) : '\n' ∉ text := by
  obtain ⟨k, segment, after, raw, _, ⟨_, _, _, _, hfeed, _⟩, hraw, rfl⟩ := h
  have hsubset : raw ⊆ segment := by
    rcases hraw with rfl | ⟨rfl, _⟩
    · exact List.subset_append_left raw _
    · exact List.Subset.refl _
  intro hmem
  exact hfeed (hsubset ((Utf8.mem_decode_ascii_iff (b := lineFeed) (by decide)).mp hmem))

/-! ## Findings -/

theorem ne_nil_of_occursAt {i : Nat} (h : OccursAt ms.markers text i) : text ≠ [] := by
  rintro rfl
  exact absurd (h.lt_length ms.noEmptyMarker) (Nat.not_lt_zero i)

/-- A finding is the text of a line from the leftmost marker on. -/
theorem mem_contents_iff_readsAs : f ∈ contents ms path content ↔ 0 ∉ content.take 8192 ∧ f.path = path ∧
    ∃ text i, ReadsAs content f.line text ∧ IsLeast { i | OccursAt ms.markers text i } i ∧
      f.fragment = text.drop i := by
  simp only [mem_contents_iff, finding?_eq_some_iff, MarkerSet.find?_eq_some_iff]
  constructor
  · rintro ⟨hzero, raw, hline, hpath, _, i, hi, hfragment⟩
    exact ⟨hzero, hpath, _, i, hline.readsAs, hi, hfragment⟩
  · rintro ⟨hzero, hpath, text, i, hreads, hi, hfragment⟩
    obtain ⟨raw, hline, rfl⟩ := hreads.exists_isLine (ne_nil_of_occursAt hi.1)
    exact ⟨hzero, raw, hline, hpath, trivial, i, hi, hfragment⟩

theorem exists_isLeast_occursAt_iff :
    (∃ i, IsLeast { i | OccursAt ms.markers text i } i) ↔ ∃ m ∈ ms.markers, m <:+: text := by
  have hnone : ms.find? text = none ↔ ¬ ∃ m ∈ ms.markers, m <:+: text := by
    rw [MarkerSet.find?_eq_none_iff_not_infix]
    push Not
    rfl
  simp only [← MarkerSet.find?_eq_some_iff, ← Option.ne_none_iff_exists']
  exact not_iff_comm.mp hnone.symm

/-- A file with a zero byte among its first 8192 holds no findings, and one without holds one for each line whose text
holds a marker: the path as given, the number of the line, and the text from its leftmost marker on. Findings come in
the order of the lines, at most one for each, and none goes beyond its line. -/
theorem scanFile_line_by_line {fs : FileSystem} {root content : Bytes} {path : Text} {ms : MarkerSet}
    (hfile : fs.node (Path.join root (Utf8.encode path)) = .ok (.file content)) :
    ∃ found, fs.scanFile root path ms = .ok found ∧
      (0 ∈ content.take 8192 → found = []) ∧
      (0 ∉ content.take 8192 →
        (∀ f, f ∈ found ↔ f.path = path ∧ ∃ text i, ReadsAs content f.line text ∧
          IsLeast { i | OccursAt ms.markers text i } i ∧ f.fragment = text.drop i) ∧
        ∀ number text, ReadsAs content number text →
          ((∃ f ∈ found, f.line = number) ↔ ∃ m ∈ ms.markers, m <:+: text)) ∧
      found.Pairwise (fun f g => f.line < g.line) ∧
      ∀ f ∈ found, '\n' ∉ f.fragment := by
  refine ⟨contents ms path content, by simp only [FileSystem.scanFile, hfile], ?_, ?_,
    contents_pairwise ms path content, ?_⟩
  · intro hzero
    refine List.eq_nil_iff_forall_not_mem.mpr fun f hf => ?_
    exact (mem_contents_iff_readsAs.mp hf).1 hzero
  · intro hzero
    have hmem : ∀ f, f ∈ contents ms path content ↔ f.path = path ∧ ∃ text i, ReadsAs content f.line text ∧
        IsLeast { i | OccursAt ms.markers text i } i ∧ f.fragment = text.drop i := by
      intro f
      rw [mem_contents_iff_readsAs, and_iff_right hzero]
    refine ⟨hmem, ?_⟩
    intro number text hreads
    rw [← exists_isLeast_occursAt_iff]
    constructor
    · rintro ⟨f, hf, rfl⟩
      obtain ⟨_, text', i, hreads', hi, _⟩ := (hmem f).mp hf
      rw [hreads.unique hreads']
      exact ⟨i, hi⟩
    · rintro ⟨i, hi⟩
      exact ⟨⟨path, number, text.drop i⟩, (hmem _).mpr ⟨rfl, text, i, hreads, hi, rfl⟩, rfl⟩
  · intro f hf
    obtain ⟨_, _, text, i, hreads, _, hfragment⟩ := mem_contents_iff_readsAs.mp hf
    rw [hfragment]
    exact fun hmem => hreads.lineEnd_not_mem (List.mem_of_mem_drop hmem)

/-- A long line, and behind it a zero byte at offset 8192, a marker and two carriage returns, without a line feed. -/
def lateZero : Bytes :=
  (List.replicate 8191 0x61 ++ [lineFeed]) ++ [0, 0x54, 0x4F, 0x44, 0x4F, 0x3A, carriageReturn, carriageReturn]

/-- A zero byte behind the first 8192 bytes hides nothing, and of two carriage returns one stays in the line. -/
theorem scanFile_line_by_line_late_zero :
    ∃ found, FileSystem.scanFile ⟨.directory [([0x61], .file lateZero)], []⟩ [period] ['a'] .standard = .ok found ∧
      ⟨['a'], 2, "TODO:\r".toList⟩ ∈ found := by
  obtain ⟨found, hfound, _, hmem, _⟩ := @scanFile_line_by_line ⟨.directory [([0x61], .file lateZero)], []⟩ [period]
    lateZero ['a'] .standard rfl
  have hzero : 0 ∉ lateZero.take 8192 := by
    rw [lateZero, List.take_left' (by rw [List.length_append, List.length_replicate]; rfl), List.mem_append, not_or]
    exact ⟨fun h => absurd (List.eq_of_mem_replicate h) (by decide), by decide⟩
  have hsegment :
      IsSegment lineFeed lateZero 1 [0, 0x54, 0x4F, 0x44, 0x4F, 0x3A, carriageReturn, carriageReturn] [] := by
    refine ⟨List.replicate 8191 0x61 ++ [lineFeed], by rw [lateZero, List.append_nil], ?_, .inr List.getLast?_concat,
      by decide, .inl rfl⟩
    rw [List.count_append, List.count_replicate]
    rfl
  have hreads : ReadsAs lateZero 2 "\x00TODO:\r".toList :=
    ⟨1, _, [], [0, 0x54, 0x4F, 0x44, 0x4F, 0x3A, carriageReturn], rfl, hsegment, .inl rfl, by decide⟩
  have hleast : IsLeast { i | OccursAt MarkerSet.standard.markers "\x00TODO:\r".toList i } 1 :=
    MarkerSet.find?_eq_some_iff.mp (by decide)
  exact ⟨found, hfound, ((hmem hzero).1 _).mpr ⟨rfl, _, 1, hreads, hleast, rfl⟩⟩

end MarkerAudit.Scan
