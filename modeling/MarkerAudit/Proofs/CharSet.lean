import MarkerAudit.CharSet
import MarkerAudit.Proofs.Utf8

/-!
# Members of sets of characters

Bringing ranges into normal form changes no member: ranges are added in ascending order, and each one joins the last
or is put behind it.
-/

namespace MarkerAudit.CharSet

/-- Some of the ranges holds the code point. -/
def Covers (rs : List CodeRange) (n : Nat) : Prop := ∃ r ∈ rs, r.lo ≤ n ∧ n ≤ r.hi

/-- The last range added starts at or before the position. -/
def StartsBy (descending : List CodeRange) (n : Nat) : Prop := ∀ q, descending.head? = some q → q.lo ≤ n

theorem hasCode_iff {s : CharSet} {n : Nat} : s.hasCode n = true ↔ Covers s.ranges n := by
  simp [hasCode, Covers]

theorem covers_nil (n : Nat) : ¬ Covers [] n := by
  rintro ⟨r, hr, _⟩
  cases hr

theorem covers_cons {r : CodeRange} {rs : List CodeRange} {n : Nat} :
    Covers (r :: rs) n ↔ (r.lo ≤ n ∧ n ≤ r.hi) ∨ Covers rs n := by
  simp [Covers]

/-! ## Normal form -/

theorem StartsBy.pushRange {d : List CodeRange} {r : CodeRange} (h : StartsBy d r.lo) :
    StartsBy (pushRange d r) r.lo := by
  intro q hq
  unfold CharSet.pushRange at hq
  split at hq
  · exact h q hq
  · cases d with
    | nil =>
        cases hq
        exact Nat.le_refl _
    | cons p rest =>
        have hp := h p rfl
        simp only at hq
        split at hq
        · cases hq
          exact hp
        · cases hq
          exact Nat.le_refl _

/-- A range that starts at or behind the last one adds just its members. -/
theorem covers_pushRange {d : List CodeRange} {r : CodeRange} (h : StartsBy d r.lo) (n : Nat) :
    Covers (pushRange d r) n ↔ Covers d n ∨ (r.lo ≤ n ∧ n ≤ r.hi) := by
  unfold CharSet.pushRange
  split
  · constructor
    · exact .inl
    · rintro (hd | ⟨hlo, hhi⟩)
      · exact hd
      · omega
  · cases d with
    | nil => simp [Covers]
    | cons q rest =>
        have hq := h q rfl
        simp only
        split
        · rw [covers_cons, covers_cons]
          dsimp only
          constructor
          · rintro (⟨hlo, hhi⟩ | hrest)
            · by_cases hn : n ≤ q.hi
              · exact .inl (.inl ⟨hlo, hn⟩)
              · exact .inr ⟨by omega, by omega⟩
            · exact .inl (.inr hrest)
          · rintro ((⟨hlo, hhi⟩ | hrest) | ⟨hlo, hhi⟩)
            · exact .inl ⟨hlo, by omega⟩
            · exact .inr hrest
            · exact .inl ⟨by omega, by omega⟩
        · rw [covers_cons, or_comm]

theorem covers_foldl_pushRange {rs d : List CodeRange} (hrs : rs.Pairwise fun a b => a.lo ≤ b.lo)
    (hd : ∀ r ∈ rs, StartsBy d r.lo) (n : Nat) :
    Covers (rs.foldl pushRange d) n ↔ Covers d n ∨ Covers rs n := by
  induction rs generalizing d with
  | nil => simp [covers_nil]
  | cons r rs ih =>
      obtain ⟨hr, hrs⟩ := List.pairwise_cons.mp hrs
      have hfirst := hd r List.mem_cons_self
      have hnext : ∀ x ∈ rs, StartsBy (pushRange d r) x.lo := by
        intro x hx q hq
        exact Nat.le_trans (hfirst.pushRange q hq) (hr x hx)
      rw [List.foldl_cons, ih hrs hnext, covers_pushRange hfirst, covers_cons, or_assoc]

theorem covers_ofRanges (rs : List CodeRange) (n : Nat) : Covers (ofRanges rs).ranges n ↔ Covers rs n := by
  have hsorted : (rs.mergeSort fun a b => a.lo ≤ b.lo).Pairwise fun a b => a.lo ≤ b.lo := by
    have h := @List.pairwise_mergeSort CodeRange (fun a b => a.lo ≤ b.lo)
      (by simp only [decide_eq_true_eq]; omega) (by simp only [Bool.or_eq_true, decide_eq_true_eq]; omega) rs
    simpa using h
  have hfold := covers_foldl_pushRange hsorted (d := []) (fun _ _ _ hq => by cases hq) n
  simpa [ofRanges, Covers] using hfold

/-! ## Members -/

theorem contains_unions {ss : List CharSet} {c : Char} :
    (unions ss).contains c = true ↔ ∃ s ∈ ss, s.contains c = true := by
  simp only [contains, hasCode_iff, unions, covers_ofRanges]
  constructor
  · rintro ⟨r, hr, hc⟩
    obtain ⟨s, hs, hr⟩ := List.mem_flatMap.mp hr
    exact ⟨s, hs, r, hr, hc⟩
  · rintro ⟨s, hs, r, hr, hc⟩
    exact ⟨r, List.mem_flatMap.mpr ⟨s, hs, hr⟩, hc⟩

@[simp] theorem contains_single {c d : Char} : (single c).contains d = true ↔ d = c := by
  rw [contains, hasCode_iff, ← Char.toNat_inj]
  simp only [single, Covers, List.mem_singleton, exists_eq_left]
  omega

theorem contains_of_only? {s : CharSet} {c d : Char} (h : s.only? = some c) : s.contains d = true ↔ d = c := by
  unfold only? at h
  split at h
  · rename_i r hr
    split at h
    · rename_i hv
      have hc : c.toNat = r.lo := by
        rw [← Option.some.inj h, Utf8.toNat_charOfNat hv.2]
      rw [contains, hasCode_iff, hr, ← Char.toNat_inj]
      simp only [Covers, List.mem_singleton, exists_eq_left]
      omega
    · cases h
  · cases h

end MarkerAudit.CharSet
