import MarkerAudit.Proofs.Pattern.WrittenLine

/-!
# The sizes of the patterns of markers

The pattern that looks for markers and the pattern of a written line hold the same expression of the markers. Each has
the size of that expression and what its own parts take, and the second takes more.
-/

namespace MarkerAudit.Pattern

open MarkerAudit.Pattern.Expr

/-- What looking for markers takes besides their expression. -/
def searchOverhead : Direction → Nat
  | .forward => 208
  | .backward => 144

/-- What the pattern of a written line takes besides the expression of the markers. -/
def lineOverhead : Direction → Nat
  | .forward => 3432
  | .backward => 8180

theorem searchOverhead_lt_lineOverhead (d : Direction) : searchOverhead d < lineOverhead d := by
  cases d <;> decide

variable {e : Expr Atom} {d : Direction} {markers : List Text} {m : Text}

/-! ## Parts -/

theorem sizeOfAll_eq (d : Direction) (es : List (Expr Atom)) (n : Nat) :
    size.sizeOfAll d es n = n + total (es.map (size d)) := by
  induction es generalizing n with
  | nil => rfl
  | cons e es ih => rw [size.sizeOfAll, ih, Nat.add_assoc]; rfl

/-- A plain text takes a state for each byte. -/
theorem size_plain (d : Direction) (m : Text) : (plain m).size d = stateSize * Utf8.size m := by
  induction m with
  | nil => rfl
  | cons c m ih =>
      have hcons : (plain (c :: m)).size d = stateSize * c.utf8Size + (plain m).size d := rfl
      rw [hcons, ih, ← Nat.mul_add]
      rfl

theorem anchored_run (d : Direction) {atoms : List Atom} (h : ∀ a ∈ atoms, a.consumes = true) :
    (run atoms).anchored d = false := by
  have hall : ∀ ordered : List Atom, (∀ a ∈ ordered, a.consumes = true) →
      (ordered.takeWhile fun a => !a.consumes) = [] := by
    intro ordered hordered
    cases ordered with
    | nil => rfl
    | cons a ordered => rw [List.takeWhile_cons_of_neg (by simp [hordered a List.mem_cons_self])]
  cases d with
  | forward => rw [anchored, hall atoms h]; rfl
  | backward => rw [anchored, hall _ fun a ha => h a (List.mem_reverse.mp ha)]; rfl

theorem anchored_plain (d : Direction) (m : Text) : (plain m).anchored d = false := by
  refine anchored_run d fun a ha => ?_
  obtain ⟨c, _, rfl⟩ := List.mem_map.mp ha
  rfl

theorem automatonSize_of_not_anchored (h : e.anchored d = false) :
    e.automatonSize d = e.size d + searchOverhead d := by
  have hprefix : prefixSize false = 112 := rfl
  rw [automatonSize, h, hprefix]
  cases d with
  | forward =>
      rw [if_pos rfl, stateSize, searchOverhead]
      omega
  | backward =>
      rw [if_neg Direction.noConfusion, stateSize, searchOverhead]
      omega

/-! ## The pattern of a written line -/

theorem automatonSize_lineExpr (e : Expr Atom) (d : Direction) :
    (lineExpr e).automatonSize d = e.size d + lineOverhead d := by
  have hsize : (lineExpr e).size d + stateSize = (lineExpr .empty).size d + e.size d := by
    simp only [lineExpr, size, sizeOfAll_eq, List.map_cons, List.map_nil, total, List.foldr_cons, List.foldr_nil]
    omega
  cases d with
  | forward =>
      have hempty : (lineExpr .empty).automatonSize .forward = stateSize + lineOverhead .forward := rfl
      have hanchored : (lineExpr e).anchored .forward = (lineExpr .empty).anchored .forward := rfl
      rw [automatonSize] at hempty ⊢
      rw [hanchored]
      omega
  | backward =>
      have hempty : (lineExpr .empty).automatonSize .backward = stateSize + lineOverhead .backward := rfl
      have hanchored : (lineExpr e).anchored .backward = (lineExpr .empty).anchored .backward := rfl
      rw [automatonSize] at hempty ⊢
      rw [hanchored]
      omega

theorem forall_direction_iff {p : Direction → Prop} : (∀ d, p d) ↔ p .forward ∧ p .backward := by
  constructor
  · exact fun h => ⟨h .forward, h .backward⟩
  · rintro ⟨hforward, hbackward⟩ d
    cases d with
    | forward => exact hforward
    | backward => exact hbackward

theorem withinLimit_iff : fits.withinLimit e = true ↔ ∀ d, e.automatonSize d ≤ sizeLimit := by
  rw [fits.withinLimit, Bool.and_eq_true, decide_eq_true_eq, decide_eq_true_eq, forall_direction_iff]

/-- The pattern of a written line is small enough if the markers leave room for its other parts. -/
theorem fits_lineExpr_iff : (lineExpr e).fits = true ↔ ∀ d, e.size d + lineOverhead d ≤ sizeLimit := by
  simp only [← automatonSize_lineExpr]
  exact withinLimit_iff

/-! ## Alternatives -/

theorem exists_mapM_eq_some {α β : Type} {f : α → Option β} {xs : List α} (h : ∀ x ∈ xs, ∃ y, f x = some y) :
    ∃ ys, xs.mapM f = some ys := by
  induction xs with
  | nil => exact ⟨[], rfl⟩
  | cons x xs ih =>
      obtain ⟨⟨y, hy⟩, hxs⟩ := List.forall_mem_cons.mp h
      obtain ⟨ys, hys⟩ := ih hxs
      exact ⟨y :: ys, by simp [hy, hys]⟩

theorem exists_charSet?_plain_iff : (∃ s, (plain m).charSet? = some s) ↔ m.length = 1 := by
  constructor
  · rintro ⟨s, hs⟩
    match m, hs with
    | [_], _ => rfl
  · intro hm
    obtain ⟨c, rfl⟩ := List.length_eq_one_iff.mp hm
    exact ⟨_, rfl⟩

theorem exists_plainBytes?_plain (m : Text) : ∃ bytes, plainBytes? (plain m) = some bytes := by
  obtain ⟨parts, hparts⟩ := @exists_mapM_eq_some _ _ Atom.bytes? (m.map .char) (by simp [Atom.bytes?])
  exact ⟨parts.flatten, by rw [plain, plainBytes?, hparts, Option.map_some]⟩

theorem not_manyTexts_le_one : ¬ manyTexts ≤ 1 := by decide

/-- The expression of markers is a plain text, a set if each is one character, or else it lists them. -/
theorem alternation_plain_cases (markers : List Text) :
    (∃ m, markers = [m] ∧ alternation (markers.map plain) = plain m) ∨
    ((∀ m ∈ markers, m.length = 1) ∧ ∃ a : Atom, a.consumes = true ∧ alternation (markers.map plain) = .run [a]) ∨
    (2 ≤ markers.length ∧ (∃ m ∈ markers, m.length ≠ 1) ∧
      alternation (markers.map plain) = .alt (markers.map plain)) := by
  have hsets : (∃ sets, (markers.map plain).mapM charSet? = some sets) ↔ ∀ m ∈ markers, m.length = 1 := by
    constructor
    · rintro ⟨sets, hsets⟩ m hm
      obtain ⟨s, _, hs⟩ := exists_right_of_mem (mapM_charSet?_eq_some hsets) (List.mem_map_of_mem hm)
      exact exists_charSet?_plain_iff.mp ⟨s, hs⟩
    · intro hall
      refine exists_mapM_eq_some (List.forall_mem_map.mpr fun m hm => exists_charSet?_plain_iff.mpr (hall m hm))
  unfold alternation
  rw [flatMap_branches_plain]
  split
  · rename_i e he
    obtain ⟨m, rfl, rfl⟩ := List.map_eq_singleton_iff.mp he
    exact .inl ⟨m, rfl, rfl⟩
  · rename_i hsingle
    right
    split
    · rename_i sets hmapM
      refine .inl ⟨hsets.mp ⟨sets, hmapM⟩, ?_⟩
      unfold ofSet
      split
      · exact ⟨_, rfl, rfl⟩
      · exact ⟨_, rfl, rfl⟩
    · rename_i hmapM
      have hsome : ∃ m ∈ markers, m.length ≠ 1 := by
        by_contra hall
        push Not at hall
        obtain ⟨sets, hsets⟩ := hsets.mpr hall
        rw [hmapM] at hsets
        cases hsets
      refine .inr ⟨?_, hsome, rfl⟩
      match markers, hsome, hsingle with
      | [m], _, hsingle => exact absurd rfl (hsingle (plain m))
      | _ :: _ :: _, _, _ => exact Nat.le_add_left 2 _

theorem anchored_alternation_plain (markers : List Text) (d : Direction) :
    (alternation (markers.map plain)).anchored d = false := by
  rcases alternation_plain_cases markers with ⟨m, _, he⟩ | ⟨_, a, ha, he⟩ | ⟨hmany, _, he⟩
  · rw [he, anchored_plain]
  · rw [he, anchored_run d (by simpa using ha)]
  · rw [he]
    obtain ⟨m, markers, rfl⟩ := List.exists_cons_of_length_pos (Nat.lt_of_lt_of_le Nat.zero_lt_two hmany)
    rw [List.map_cons, anchored, anchored.allAnchored, anchored_plain, Bool.false_and]

/-- The pattern of the markers is small enough if it lists very many of them, or if their expression is. -/
theorem fits_alternation_plain_iff : (alternation (markers.map plain)).fits = true ↔
    (manyTexts ≤ markers.length ∧ ∃ m ∈ markers, m.length ≠ 1) ∨
      ∀ d, (alternation (markers.map plain)).size d + searchOverhead d ≤ sizeLimit := by
  have hlimit : fits.withinLimit (alternation (markers.map plain)) = true ↔
      ∀ d, (alternation (markers.map plain)).size d + searchOverhead d ≤ sizeLimit := by
    rw [withinLimit_iff]
    exact forall_congr' fun d => by rw [automatonSize_of_not_anchored (anchored_alternation_plain markers d)]
  have hrun : ∀ atoms : List Atom, (run atoms).fits = fits.withinLimit (run atoms) := fun _ => rfl
  rw [← hlimit]
  rcases alternation_plain_cases markers with ⟨m, rfl, he⟩ | ⟨hall, a, _, he⟩ | ⟨hmany, hsome, he⟩
  · rw [he, plain, hrun, or_iff_right fun h => not_manyTexts_le_one h.1]
  · rw [he, hrun, or_iff_right]
    rintro ⟨_, m, hm, hlength⟩
    exact hlength (hall m hm)
  · have htexts : (plainTexts? (markers.map plain)).isSome = true := by
      obtain ⟨texts, htexts⟩ := @exists_mapM_eq_some _ _ plainBytes? (markers.map plain)
        (List.forall_mem_map.mpr fun m _ => exists_plainBytes?_plain m)
      rw [plainTexts?, List.length_map, if_neg (Nat.not_lt.mpr hmany), htexts, Option.isSome_some]
    rw [he, fits, Bool.or_eq_true, Bool.and_eq_true, decide_eq_true_eq, List.length_map, and_iff_left htexts,
      and_iff_left hsome]

/-! ## One marker -/

/-- The longest marker that can be looked for has this many bytes. -/
theorem fits_alternation_single_iff : (alternation ([m].map plain)).fits = true ↔ Utf8.size m ≤ 327673 := by
  have hsize : ∀ d, (alternation ([m].map plain)).size d = stateSize * Utf8.size m := fun d => size_plain d m
  rw [fits_alternation_plain_iff, or_iff_right fun h => not_manyTexts_le_one h.1, forall_direction_iff]
  simp only [hsize, stateSize, searchOverhead, sizeLimit]
  omega

/-- The longest marker that written lines can be searched for has fewer. -/
theorem fits_lineExpr_single_iff : (lineExpr (alternation ([m].map plain))).fits = true ↔ Utf8.size m ≤ 327424 := by
  have hsize : ∀ d, (alternation ([m].map plain)).size d = stateSize * Utf8.size m := fun d => size_plain d m
  rw [fits_lineExpr_iff, forall_direction_iff]
  simp only [hsize, stateSize, lineOverhead, sizeLimit]
  omega

end MarkerAudit.Pattern
