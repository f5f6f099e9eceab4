import MarkerAudit.Proofs.Scan

/-!
# Repaired files

Bytes are repaired by decoding and encoding them again, which makes U+FFFD of what is not UTF-8. Repairing leaves every
ASCII byte where it stands between the others, and moves none towards the start. So a repaired file has the lines of the
file, each repaired, and the same is found in it.
-/

namespace MarkerAudit

namespace Utf8

variable {bytes : Bytes} {b : UInt8} {n : Nat}

/-- The bytes of the text that bytes decode to. -/
def repair (bytes : Bytes) : Bytes := encode (decode bytes)

/-! ## Repaired bytes -/

@[simp] theorem decode_repair (bytes : Bytes) : decode (repair bytes) = decode bytes := decode_encode _

theorem repair_eq_nil_iff : repair bytes = [] ↔ bytes = [] := by
  rw [← decode_eq_nil_iff, decode_repair, decode_eq_nil_iff]

/-- ASCII bytes stay, and what stands before and behind one is repaired apart. -/
theorem repair_append_ascii (hb : b < 0x80) (as bs : Bytes) :
    repair (as ++ b :: bs) = repair as ++ b :: repair bs := by
  rw [repair, decode_append_ascii hb, encode_append, encode_cons, encodeChar_ascii hb]
  rfl

theorem mem_repair_ascii_iff (hb : b < 0x80) : b ∈ repair bytes ↔ b ∈ bytes := by
  rw [← mem_decode_ascii_iff hb, decode_repair, mem_decode_ascii_iff hb]

theorem repair_intercalate (hb : b < 0x80) (parts : List Bytes) :
    repair ([b].intercalate parts) = [b].intercalate (parts.map repair) := by
  induction parts with
  | nil => rfl
  | cons part parts ih =>
      cases parts with
      | nil => rw [List.map_singleton, List.intercalate_singleton, List.intercalate_singleton]
      | cons next parts =>
          rw [List.map_cons] at ih ⊢
          rw [List.map_cons, List.intercalate_cons_cons, List.intercalate_cons_cons, ← ih, List.append_assoc,
            List.append_assoc]
          exact repair_append_ascii hb part _

theorem segments_repair (hb : b < 0x80) (bytes : Bytes) :
    segments b (repair bytes) = (segments b bytes).map repair := by
  have hnot : ∀ part ∈ (segments b bytes).map repair, b ∉ part := by
    refine List.forall_mem_map.mpr fun segment hsegment => ?_
    exact mt (mem_repair_ascii_iff hb).mp (not_mem_of_mem_segments hsegment)
  have hne : (segments b bytes).map repair ≠ [] := by
    rw [segments_eq_splitOn]
    exact mt List.map_eq_nil_iff.mp (List.splitOn_ne_nil b bytes)
  have hjoin : [b].intercalate (segments b bytes) = bytes := by
    rw [segments_eq_splitOn, List.intercalate_splitOn]
  calc segments b (repair bytes)
      = ([b].intercalate ((segments b bytes).map repair)).splitOn b := by
        rw [← repair_intercalate hb, hjoin, segments_eq_splitOn]
    _ = (segments b bytes).map repair := List.splitOn_intercalate b hnot hne

theorem getLast?_repair_ascii_iff (hb : b < 0x80) : (repair bytes).getLast? = some b ↔ bytes.getLast? = some b := by
  constructor
  · intro h
    obtain ⟨as, has⟩ := List.getLast?_eq_some_iff.mp h
    -- the text ends in the character of the byte, and nothing can stand behind that byte
    have hdecode : decode bytes = decode as ++ Char.ofNat b.toNat :: [] := by
      rw [← decode_repair, has, decode_append_ascii hb, decode_nil]
    obtain ⟨before, behind, rfl, _, hbehind⟩ := exists_of_decode_eq_ascii hb hdecode
    rw [decode_eq_nil_iff.mp hbehind, List.getLast?_concat]
  · intro h
    obtain ⟨as, rfl⟩ := List.getLast?_eq_some_iff.mp h
    rw [repair_append_ascii hb, show repair [] = [] from rfl, List.getLast?_concat]

/-- An ASCII byte among the first of repaired bytes is among the first of the bytes. -/
theorem mem_take_of_mem_take_repair (hb : b < 0x80) (h : b ∈ (repair bytes).take n) : b ∈ bytes.take n := by
  obtain ⟨o, ho, hget⟩ := List.mem_take_iff_getElem.mp h
  have hdrop : (repair bytes).drop o = b :: (repair bytes).drop (o + 1) := by
    rw [← hget, List.drop_eq_getElem_cons]
  obtain ⟨s, r, hdecode, hs⟩ := boundary_of_drop_encode hdrop (not_isContinuation_ascii hb)
  have hr : r = Char.ofNat b.toNat :: decode ((repair bytes).drop (o + 1)) := by
    rw [← decode_cons_ascii hb, ← hdrop, repair, hdecode, encode_append, ← hs, List.drop_left, decode_encode]
  rw [hr] at hdecode
  obtain ⟨as, bs, rfl, has, _⟩ := exists_of_decode_eq_ascii hb hdecode
  -- repairing has made what stands before the byte no shorter
  have hlength : as.length ≤ o := by
    rw [← hs, ← has]
    exact length_le_length_encode_decode as
  refine List.mem_take_iff_getElem.mpr ⟨as.length, ?_, List.getElem_append_right (Nat.le_refl _) |>.trans (by simp)⟩
  rw [List.length_append, List.length_cons]
  omega

end Utf8

namespace Scan

open Ascii

variable {content : Bytes}

/-! ## Scanning -/

theorem dropCarriageReturn_repair (segment : Bytes) :
    dropCarriageReturn (Utf8.repair segment) = Utf8.repair (dropCarriageReturn segment) := by
  have hascii : carriageReturn < 0x80 := by decide
  simp only [dropCarriageReturn, Utf8.getLast?_repair_ascii_iff hascii]
  split
  · rename_i hlast
    obtain ⟨line, rfl⟩ := List.getLast?_eq_some_iff.mp hlast
    rw [Utf8.repair_append_ascii hascii, show Utf8.repair [] = [] from rfl, List.dropLast_concat, List.dropLast_concat]
  · rfl

theorem lines_repair (content : Bytes) : lines (Utf8.repair content) = (lines content).map Utf8.repair := by
  have hlast : ((segments lineFeed content).map Utf8.repair).getLast? = some [] ↔
      (segments lineFeed content).getLast? = some [] := by
    rw [List.getLast?_map, Option.map_eq_some_iff]
    simp only [Utf8.repair_eq_nil_iff, exists_eq_right]
  have hcarriage : dropCarriageReturn ∘ Utf8.repair = Utf8.repair ∘ dropCarriageReturn :=
    funext dropCarriageReturn_repair
  simp only [lines, Utf8.segments_repair (show lineFeed < 0x80 by decide), hlast]
  split
  · rw [← List.map_dropLast, List.map_map, List.map_map, hcarriage]
  · rw [List.map_map, List.map_map, hcarriage]

theorem finding?_repair (ms : MarkerSet) (path : Text) (line : Bytes) (number : Nat) :
    finding? ms path (Utf8.repair line) number = finding? ms path line number := by
  rw [finding?, Utf8.decode_repair]
  rfl

theorem not_isBinary_repair (h : isBinary content = false) : isBinary (Utf8.repair content) = false := by
  rw [isBinary_eq_false_iff] at h ⊢
  exact mt (Utf8.mem_take_of_mem_take_repair (by decide)) h

theorem contents_repair (ms : MarkerSet) (path : Text) (h : isBinary content = false) :
    contents ms path (Utf8.repair content) = contents ms path content := by
  rw [contents, contents, h, not_isBinary_repair h, lines_repair, List.zipIdx_map, List.filterMap_map]
  simp only [Function.comp_def, Prod.map, finding?_repair, id]

/-- Scanning a file that is not binary and scanning the same file repaired find the same. The repaired file is not
binary either, and its line feeds, and the carriage returns before them, stand between the same segments, each
repaired. -/
theorem scanFile_repaired {fs fs' : FileSystem} {root root' content : Bytes} {path : Text} {ms : MarkerSet}
    (hfile : fs.node (Path.join root (Utf8.encode path)) = .ok (.file content))
    (hrepaired : fs'.node (Path.join root' (Utf8.encode path)) = .ok (.file (Utf8.encode (Utf8.decode content))))
    (htext : 0 ∉ content.take 8192) :
    (∃ found, fs.scanFile root path ms = .ok found ∧ fs'.scanFile root' path ms = .ok found) ∧
      0 ∉ (Utf8.encode (Utf8.decode content)).take 8192 ∧
      segments lineFeed (Utf8.encode (Utf8.decode content)) =
        (segments lineFeed content).map (fun segment => Utf8.encode (Utf8.decode segment)) ∧
      ∀ segment ∈ segments lineFeed content,
        (Utf8.encode (Utf8.decode segment)).getLast? = some carriageReturn ↔
          segment.getLast? = some carriageReturn := by
  have hbinary : isBinary content = false := isBinary_eq_false_iff.mpr htext
  refine ⟨⟨contents ms path content, ?_, ?_⟩, isBinary_eq_false_iff.mp (not_isBinary_repair hbinary),
    Utf8.segments_repair (by decide) content, fun segment _ => Utf8.getLast?_repair_ascii_iff (by decide)⟩
  · simp only [FileSystem.scanFile, hfile]
  · have hsame := contents_repair ms path hbinary
    rw [Utf8.repair] at hsame
    simp only [FileSystem.scanFile, hrepaired, hsame]

/-- A file in which sequences break off before a line end, before a marker and before a last carriage return. -/
def brokenOff : Bytes :=
  [0xE2, 0x82, carriageReturn, lineFeed, 0xF0, 0x9F, 0x98, 0x54, 0x4F, 0x44, 0x4F, 0x3A, 0xC3, carriageReturn]

/-- What is found in the file is found once it is repaired, which makes it longer. -/
theorem scanFile_repaired_broken_off :
    ∃ found, FileSystem.scanFile ⟨.directory [([0x61], .file brokenOff)], []⟩ [period] ['a'] .standard = .ok found ∧
      FileSystem.scanFile ⟨.directory [([0x61], .file (Utf8.encode (Utf8.decode brokenOff)))], []⟩ [period] ['a']
        .standard = .ok found ∧
      found = [⟨['a'], 2, "TODO:\uFFFD".toList⟩] ∧ Utf8.encode (Utf8.decode brokenOff) ≠ brokenOff := by
  obtain ⟨⟨found, hfound, hfound'⟩, _⟩ := @scanFile_repaired ⟨.directory [([0x61], .file brokenOff)], []⟩
    ⟨.directory [([0x61], .file (Utf8.encode (Utf8.decode brokenOff)))], []⟩ [period] [period] brokenOff ['a'] .standard
    rfl rfl (by decide)
  have hscan : FileSystem.scanFile ⟨.directory [([0x61], .file brokenOff)], []⟩ [period] ['a'] .standard =
      .ok [⟨['a'], 2, "TODO:\uFFFD".toList⟩] := by
    decide +kernel
  refine ⟨found, hfound, hfound', ?_, by decide⟩
  rw [hscan] at hfound
  exact (Except.ok.inj hfound).symm

end Scan
end MarkerAudit
