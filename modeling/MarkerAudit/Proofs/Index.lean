import Mathlib.Algebra.Group.Nat.Defs
import Mathlib.Data.List.TakeWhile
import MarkerAudit.Repository.Index

/-!
# What index files hold

An index that is written is read back entry by entry, and what is read can be written again. Putting an entry in and
taking a path out change nothing else.
-/

namespace MarkerAudit

/-! ## Numbers in bytes -/

theorem length_bigEndian (width n : Nat) : (bigEndian width n).length = width := by
  induction width generalizing n with
  | zero => rfl
  | succ width ih => rw [bigEndian, List.length_append, ih, List.length_singleton]

theorem ofBigEndian_bigEndian {width n : Nat} (h : n < 256 ^ width) : ofBigEndian (bigEndian width n) = n := by
  induction width generalizing n with
  | zero =>
      rw [Nat.pow_zero, Nat.lt_one_iff] at h
      rw [h]
      rfl
  | succ width ih =>
      have hdiv : n / 256 < 256 ^ width := Nat.div_lt_of_lt_mul (by rwa [Nat.pow_succ, Nat.mul_comm] at h)
      have hlast : ((n % 256).toUInt8).toNat = n % 256 := Nat.mod_eq_of_lt (Nat.mod_lt n (by decide))
      rw [bigEndian, ofBigEndian, List.foldl_append, List.foldl_cons, List.foldl_nil, ← ofBigEndian, ih hdiv, hlast,
        Nat.div_add_mod]

theorem Sha1.length_digest (message : Bytes) : (digest message).length = size := by
  simp [digest, length_bigEndian, size]

/-! ## Entries -/

theorem EntryKind.ofMode_mode (k : EntryKind) : ofMode k.mode = k := by
  cases k <;> rfl

/-- The entry fits into an index file: its path ends where a zero is, and there are four stages. -/
structure IndexEntry.IsStorable (e : IndexEntry) : Prop where
  noZero : 0 ∉ e.path
  stage : e.stage < 4

namespace Index

variable {e f : IndexEntry} {ix : Index} {before rest : Bytes}

theorem takeWhile_append_of_noZero {t : Bytes} (h : 0 ∉ t) (rest : Bytes) :
    (t ++ rest).takeWhile (· ≠ 0) = t ++ rest.takeWhile (· ≠ 0) :=
  List.takeWhile_append_of_pos fun _ hb => decide_eq_true fun h0 => h (h0 ▸ hb)

theorem padding_eq_cons (length : Nat) : ∃ zeros, padding length = 0 :: zeros := by
  obtain ⟨n, hn⟩ := Nat.exists_eq_succ_of_ne_zero (Nat.sub_ne_zero_of_lt (Nat.mod_lt length (by decide : 8 > 0)))
  exact ⟨List.replicate n 0, by rw [padding, hn, List.replicate_succ]⟩

theorem length_encodeEntry (e : IndexEntry) :
    (encodeEntry e).length = 62 + e.path.length + (padding (62 + e.path.length)).length := by
  simp only [encodeEntry, List.length_append, List.length_replicate, length_bigEndian]

/-- Whether its length is told or not, the path is what is in front of the first zero. -/
theorem readPath_path (h : 0 ∉ e.path) :
    readPath 2 before 62 (min e.path.length 0xFFF) (e.path ++ (padding (62 + e.path.length) ++ rest)) =
      some (e.path, rest) := by
  obtain ⟨zeros, hzeros⟩ := padding_eq_cons (62 + e.path.length)
  have hlength : (if min e.path.length 0xFFF = 0xFFF then
      ((e.path ++ (padding (62 + e.path.length) ++ rest)).takeWhile (· ≠ 0)).length else min e.path.length 0xFFF) =
      e.path.length := by
    rw [hzeros, takeWhile_append_of_noZero h, List.cons_append, List.takeWhile_cons_of_neg (by decide),
      List.append_nil]
    split
    · rfl
    · omega
  have hsize : (e.path ++ (padding (62 + e.path.length) ++ rest)).drop
      (e.path.length + (padding (62 + e.path.length)).length) = rest := by
    rw [← List.drop_drop, List.drop_left, List.drop_left]
  have hpath := takeWhile_append_of_noZero h []
  rw [List.append_nil, List.takeWhile_nil, List.append_nil] at hpath
  rw [readPath, if_pos (by decide)]
  simp only [hlength, hsize, List.take_left, hpath]
  rw [if_neg]
  simp only [List.length_append]
  omega

/-- The flags of an entry tell its stage, what is assumed, and the length of its path as far as it fits. -/
theorem flags_spec (h : e.stage < 4) : flags e < 256 ^ 2 ∧ flags e / 0x4000 % 2 = 0 ∧
    flags e % 0x1000 = min e.path.length 0xFFF ∧ flags e / 0x1000 % 4 = e.stage ∧
    decide (flags e / 0x8000 = 1) = e.assumeUnchanged := by
  rw [flags]
  generalize hlength : min e.path.length 0xFFF = length
  have hle : length ≤ 0xFFF := by omega
  cases e.assumeUnchanged with
  | false =>
      simp only [Bool.false_eq_true, if_false, decide_eq_false_iff_not]
      omega
  | true =>
      simp only [if_true, decide_eq_true_eq]
      omega

/-- An entry that is written is read back, whatever stands behind it. -/
theorem readEntry_encodeEntry (h : e.IsStorable) :
    readEntry 2 before (encodeEntry e ++ rest) = some (e, rest) := by
  obtain ⟨hflags, hextended, hlength, hstage, hassumed⟩ := flags_spec h.stage
  have htext : encodeEntry e ++ rest = List.replicate 24 0 ++ (bigEndian 4 e.kind.mode ++ (List.replicate 32 0 ++
      (bigEndian 2 (flags e) ++ (e.path ++ (padding (62 + e.path.length) ++ rest))))) := by
    simp only [encodeEntry, List.append_assoc]
  have hmode : ofBigEndian (((encodeEntry e ++ rest).drop 24).take 4) = e.kind.mode := by
    rw [htext, List.drop_left' List.length_replicate, List.take_left' (length_bigEndian 4 _)]
    exact ofBigEndian_bigEndian (by cases e.kind <;> decide)
  have hfront : (encodeEntry e ++ rest).drop 60 =
      bigEndian 2 (flags e) ++ (e.path ++ (padding (62 + e.path.length) ++ rest)) := by
    rw [htext, ← List.append_assoc, ← List.append_assoc]
    exact List.drop_left' (by simp [length_bigEndian])
  have htail : (encodeEntry e ++ rest).drop 62 = e.path ++ (padding (62 + e.path.length) ++ rest) := by
    rw [← List.drop_drop (i := 2) (j := 60), hfront]
    exact List.drop_left' (length_bigEndian 2 _)
  have hnumber : ofBigEndian (((encodeEntry e ++ rest).drop 60).take 2) = flags e := by
    rw [hfront, List.take_left' (length_bigEndian 2 _)]
    exact ofBigEndian_bigEndian hflags
  rw [readEntry, if_neg]
  · simp only [hmode, hnumber, hextended, hlength, hstage, hassumed, EntryKind.ofMode_mode, Nat.zero_ne_one, if_false,
      htail, readPath_path h.noZero, Option.map_some]
  · rw [List.length_append, length_encodeEntry]
    omega

/-! ## Index files -/

/-- The entries that are written are read back, whatever stands behind them. -/
theorem readEntries_flatMap (h : ∀ e ∈ ix, e.IsStorable) :
    readEntries 2 ix.length before (ix.flatMap encodeEntry ++ rest) = some (ix, rest) := by
  induction ix generalizing before with
  | nil => rfl
  | cons e ix ih =>
      obtain ⟨he, hix⟩ := List.forall_mem_cons.mp h
      rw [List.length_cons, readEntries, List.flatMap_cons, List.append_assoc, readEntry_encodeEntry he]
      simp only [ih hix, Option.map_some]

theorem length_flatMap_encodeEntry (ix : Index) : 62 * ix.length ≤ (ix.flatMap encodeEntry).length := by
  induction ix with
  | nil => exact Nat.zero_le _
  | cons e ix ih =>
      rw [List.flatMap_cons, List.length_append, length_encodeEntry, List.length_cons]
      omega

/-- What an index file starts with, the version that is written, the number of entries, and what is behind them. -/
theorem header_spec {count : Nat} {c : Bytes} (hcount : count < 256 ^ 4)
    (hc : c = signature ++ bigEndian 4 2 ++ bigEndian 4 count ++ rest) :
    c.take 4 = signature ∧ ofBigEndian ((c.drop 4).take 4) = 2 ∧ ofBigEndian ((c.drop 8).take 4) = count ∧
      c.drop 12 = rest ∧ c.length = 12 + rest.length := by
  have hsignature : signature.length = 4 := by decide +kernel
  have hversion : (signature ++ bigEndian 4 2).length = 8 := by rw [List.length_append, hsignature, length_bigEndian]
  have hnumber : (signature ++ bigEndian 4 2 ++ bigEndian 4 count).length = 12 := by
    rw [List.length_append, hversion, length_bigEndian]
  refine ⟨?_, ?_, ?_, ?_, ?_⟩
  · rw [hc, List.append_assoc, List.append_assoc, List.take_left' hsignature]
  · rw [hc, List.append_assoc, List.append_assoc, List.drop_left' hsignature, List.take_left' (length_bigEndian 4 2)]
    exact ofBigEndian_bigEndian (by decide)
  · rw [hc, List.append_assoc, List.drop_left' hversion, List.take_left' (length_bigEndian 4 count)]
    exact ofBigEndian_bigEndian hcount
  · rw [hc, List.drop_left' hnumber]
  · rw [hc, List.length_append, hnumber]

/-- An index that is written is read back. -/
theorem decode?_encode (h : ∀ e ∈ ix, e.IsStorable) (hcount : ix.length < 256 ^ 4) : decode? (encode ix) = some ix := by
  obtain ⟨content, hcontent⟩ : ∃ c, c = signature ++ bigEndian 4 2 ++ bigEndian 4 ix.length ++ ix.flatMap encodeEntry :=
    ⟨_, rfl⟩
  obtain ⟨hsignature, hversion, hnumber, hentries, hlength⟩ := header_spec hcount hcontent
  have hencode : encode ix = content ++ Sha1.digest content := by rw [hcontent]; rfl
  have htake : (encode ix).take ((encode ix).length - Sha1.size) = content := by
    rw [hencode, List.length_append, Sha1.length_digest, Nat.add_sub_cancel, List.take_left]
  have htrailer : (encode ix).drop content.length = Sha1.digest content := by rw [hencode, List.drop_left]
  have hread := @readEntries_flatMap ix [] [] h
  rw [List.append_nil] at hread
  have hshort : ¬ content.length < 12 := by omega
  have hroom : ¬ content.length < 62 * ix.length := by
    have := length_flatMap_encodeEntry ix
    omega
  simp only [decode?, htake, htrailer, hsignature, hversion, hnumber, hentries, hread, hshort, hroom, if_false]
  simp [areExtensions]

/-! ## What is read -/

theorem noZero_of_readPath {version headLength nameLength : Nat} {t p : Bytes} (hbefore : 0 ∉ before)
    (h : readPath version before headLength nameLength t = some (p, rest)) : 0 ∉ p := by
  have hnoZero : ∀ t : Bytes, 0 ∉ t.takeWhile (· ≠ 0) := fun t h0 => by
    simpa using List.mem_takeWhile_imp h0
  unfold readPath at h
  split at h
  · dsimp only at h
    generalize (if nameLength = 0xFFF then (t.takeWhile (· ≠ 0)).length else nameLength) = length at h
    split at h
    · cases h
    · cases h
      exact hnoZero _
  · split at h
    · cases h
    · dsimp only at h
      split at h
      · cases h
      · cases h
        rw [List.mem_append, not_or]
        exact ⟨fun h0 => hbefore (List.mem_of_mem_take h0), hnoZero _⟩

theorem isStorable_of_readEntry {version : Nat} {t : Bytes} (hbefore : 0 ∉ before)
    (h : readEntry version before t = some (e, rest)) : e.IsStorable := by
  unfold readEntry at h
  split at h
  · cases h
  · obtain ⟨⟨p, rest'⟩, hpath, he⟩ := Option.map_eq_some_iff.mp h
    cases he
    exact ⟨noZero_of_readPath hbefore hpath, Nat.mod_lt _ (by decide)⟩

theorem isStorable_of_readEntries {version count : Nat} {t : Bytes} (hbefore : 0 ∉ before)
    (h : readEntries version count before t = some (ix, rest)) : ∀ e ∈ ix, e.IsStorable := by
  induction count generalizing before t ix with
  | zero =>
      cases h
      exact List.forall_mem_nil _
  | succ count ih =>
      unfold readEntries at h
      split at h
      · cases h
      · rename_i e rest' hentry
        obtain ⟨⟨es, rest''⟩, hentries, heq⟩ := Option.map_eq_some_iff.mp h
        cases heq
        have he := isStorable_of_readEntry hbefore hentry
        exact List.forall_mem_cons.mpr ⟨he, ih he.noZero hentries⟩

/-- What is read can be written again. -/
theorem isStorable_of_decode? {file : Bytes} (h : decode? file = some ix) : ∀ e ∈ ix, e.IsStorable := by
  unfold decode? at h
  simp only at h
  split at h
  · cases h
  · split at h
    · cases h
    · split at h
      · cases h
      · rename_i hread
        split at h
        · cases h
          exact isStorable_of_readEntries List.not_mem_nil hread
        · cases h

/-! ## Changes -/

theorem mem_ofEntries {es : List IndexEntry} : f ∈ ofEntries es ↔ f ∈ es := List.mem_mergeSort

/-- An entry that is put in stays beside those that it neither replaces nor clashes with. -/
theorem mem_insert : f ∈ insert ix e ↔ f = e ∨ f ∈ ix ∧
    ¬ (f.path = e.path ∧ (e.stage = 0 ∨ f.stage = e.stage)) ∧ ¬ (f.stage = e.stage ∧ clash f.path e.path = true) := by
  simp only [insert, mem_ofEntries, List.mem_cons, List.mem_filter, Bool.not_eq_true', ← Bool.not_eq_true,
    Bool.and_eq_true, Bool.or_eq_true, decide_eq_true_eq]

theorem isStorable_insert (hix : ∀ e ∈ ix, e.IsStorable) (he : e.IsStorable) : ∀ f ∈ insert ix e, f.IsStorable := by
  intro f hf
  rcases mem_insert.mp hf with rfl | ⟨hf, _⟩
  · exact he
  · exact hix f hf

theorem isStorable_foldl_insert {es : List IndexEntry} (hix : ∀ e ∈ ix, e.IsStorable) (hes : ∀ e ∈ es, e.IsStorable) :
    ∀ f ∈ es.foldl insert ix, f.IsStorable := by
  induction es generalizing ix with
  | nil => exact hix
  | cons e es ih =>
      obtain ⟨he, hes⟩ := List.forall_mem_cons.mp hes
      exact ih (isStorable_insert hix he) hes

end Index
end MarkerAudit
