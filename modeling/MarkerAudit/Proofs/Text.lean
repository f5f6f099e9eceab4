import Mathlib.Data.List.Forall2
import Mathlib.Data.List.Lex
import Mathlib.Order.Bounds.Basic
import Mathlib.Order.RelClasses
import MarkerAudit.Text

/-!
# Properties of texts

Segments are the pieces of a list between separators, joining puts them together again, and the order of texts is
the lexicographic order of their code points.
-/

namespace MarkerAudit

/-! ## Segments -/

variable {α : Type} [DecidableEq α]

theorem segments_eq_splitOn (sep : α) (xs : List α) : segments sep xs = xs.splitOn sep := by
  induction xs with
  | nil => simp [segments, List.splitOn_nil]
  | cons x xs ih =>
      have hne := List.splitOn_ne_nil sep xs
      simp only [segments, List.foldr_cons, List.splitOn_cons_eq_if_modifyHead, beq_iff_eq] at ih ⊢
      rw [ih]
      split
      · rfl
      · cases hs : xs.splitOn sep with
        | nil => exact absurd hs hne
        | cons s rest => rfl

theorem segments_append_sep {sep : α} (before behind : List α) :
    segments sep (before ++ sep :: behind) = segments sep before ++ segments sep behind := by
  simp only [segments_eq_splitOn, List.splitOn_append_cons_self]

theorem segments_of_not_mem {sep : α} {xs : List α} (h : sep ∉ xs) : segments sep xs = [xs] := by
  rw [segments_eq_splitOn, List.splitOn_eq_singleton h]

theorem subset_intercalate {β : Type} {sep s : List β} {parts : List (List β)} (h : s ∈ parts) :
    s ⊆ sep.intercalate parts := by
  induction parts with
  | nil => cases h
  | cons p parts ih =>
      cases parts with
      | nil =>
          rw [List.mem_singleton.mp h, List.intercalate_singleton]
          exact List.Subset.refl p
      | cons q parts =>
          rw [List.intercalate_cons_cons]
          rcases List.mem_cons.mp h with rfl | h
          · exact fun x hx => List.mem_append_left _ (List.mem_append_left _ hx)
          · exact fun x hx => List.mem_append_right _ (ih h hx)

theorem subset_of_mem_segments {sep : α} {xs s : List α} (h : s ∈ segments sep xs) : s ⊆ xs := by
  have hxs : [sep].intercalate (xs.splitOn sep) = xs := List.intercalate_splitOn sep
  rw [segments_eq_splitOn] at h
  exact hxs ▸ subset_intercalate h

/-- No segment holds the separator. -/
theorem not_mem_of_mem_segments {sep : α} {xs s : List α} (h : s ∈ segments sep xs) : sep ∉ s := by
  rw [segments_eq_splitOn] at h
  induction xs generalizing s with
  | nil =>
      rw [List.splitOn_nil, List.mem_singleton] at h
      rw [h]
      exact List.not_mem_nil
  | cons x xs ih =>
      rw [List.splitOn_cons_eq_if_modifyHead] at h
      split at h
      · rcases List.mem_cons.mp h with rfl | h
        · exact List.not_mem_nil
        · exact ih h
      · rename_i hx
        obtain ⟨t, rest, hsplit⟩ := List.exists_cons_of_ne_nil (List.splitOn_ne_nil sep xs)
        rw [hsplit] at h ih
        rcases List.mem_cons.mp h with rfl | h
        · have ht := ih List.mem_cons_self
          have hne : sep ≠ x := fun he => hx (beq_iff_eq.mpr he.symm)
          simp [hne, ht]
        · exact ih (List.mem_cons_of_mem t h)

/-- What stands behind the last separator is the last segment. -/
theorem exists_last_segment {sep : α} {xs : List α} (h : sep ∈ xs) :
    ∃ before last, xs = before ++ sep :: last ∧ sep ∉ last ∧ segments sep xs = segments sep before ++ [last] := by
  obtain ⟨after, before, hreverse, hlast⟩ := List.eq_append_cons_of_mem (List.mem_reverse.mpr h)
  rw [← List.mem_reverse] at hlast
  have hxs : xs = before.reverse ++ sep :: after.reverse := by
    rw [← List.reverse_reverse xs, hreverse, List.reverse_append, List.reverse_cons, List.append_assoc,
      List.singleton_append]
  refine ⟨before.reverse, after.reverse, hxs, hlast, ?_⟩
  rw [hxs, segments_append_sep, segments_of_not_mem hlast]

/-- The last segment is what stands behind the last separator, or everything where there is none. -/
theorem getLast?_segments_eq_some_iff {sep : α} {xs last : List α} :
    (segments sep xs).getLast? = some last ↔ sep ∉ last ∧ (xs = last ∨ sep :: last <:+ xs) := by
  constructor
  · intro h
    refine ⟨not_mem_of_mem_segments (List.mem_of_getLast? h), ?_⟩
    by_cases hsep : sep ∈ xs
    · obtain ⟨before, behind, hxs, _, hsegments⟩ := exists_last_segment hsep
      rw [hsegments, List.getLast?_concat, Option.some.injEq] at h
      exact .inr ⟨before, by rw [hxs, h]⟩
    · rw [segments_of_not_mem hsep, List.getLast?_singleton, Option.some.injEq] at h
      exact .inl h
  · rintro ⟨hlast, rfl | ⟨before, rfl⟩⟩
    · rw [segments_of_not_mem hlast, List.getLast?_singleton]
    · rw [segments_append_sep, segments_of_not_mem hlast, List.getLast?_concat]

theorem dropPrefix?_eq_some_iff {xs p rest : List α} : dropPrefix? xs p = some rest ↔ xs = p ++ rest := by
  induction p generalizing xs with
  | nil => cases xs <;> simp [dropPrefix?, eq_comm]
  | cons y p ih =>
      cases xs with
      | nil => simp [dropPrefix?]
      | cons x xs =>
          by_cases h : x = y
          · simp [dropPrefix?, h, ih]
          · simp [dropPrefix?, h]

omit [DecidableEq α] in
/-- The order of lists is the lexicographic order of the keys of their elements. -/
theorem comesBefore_iff {key : α → Nat} {xs ys : List α} :
    comesBefore key xs ys = true ↔ ¬ List.Lex (· < ·) (ys.map key) (xs.map key) := by
  induction xs generalizing ys with
  | nil => simp [comesBefore]
  | cons x xs ih =>
      cases ys with
      | nil => simp [comesBefore]
      | cons y ys =>
          simp only [comesBefore, List.map_cons, List.cons_lex_cons_iff]
          split
          · rename_i h
            simp [h, ih]
          · rename_i h
            simp only [decide_eq_true_eq, not_or, not_and]
            constructor
            · intro hlt
              exact ⟨by omega, fun he => absurd he.symm h⟩
            · rintro ⟨hle, _⟩
              omega

omit [DecidableEq α] in
theorem comesBefore_trans {key : α → Nat} {xs ys zs : List α} (hxy : comesBefore key xs ys = true)
    (hyz : comesBefore key ys zs = true) : comesBefore key xs zs = true := by
  rw [comesBefore_iff] at *
  intro hzx
  rcases IsOrderConnected.conn _ (ys.map key) _ hzx with hzy | hyx
  · exact hyz hzy
  · exact hxy hyx

omit [DecidableEq α] in
theorem comesBefore_total {key : α → Nat} (xs ys : List α) :
    (comesBefore key xs ys || comesBefore key ys xs) = true := by
  rw [Bool.or_eq_true, comesBefore_iff, comesBefore_iff]
  by_cases h : List.Lex (· < ·) (ys.map key) (xs.map key)
  · exact .inr (Std.Asymm.asymm _ _ h)
  · exact .inl h

omit [DecidableEq α] in
theorem append_flatMap_eq_intercalate (sep p : List α) (parts : List (List α)) :
    p ++ parts.flatMap (sep ++ ·) = sep.intercalate (p :: parts) := by
  induction parts generalizing p with
  | nil => simp
  | cons q parts ih =>
      rw [List.intercalate_cons_cons, ← ih q]
      simp

/-- What two lists start with alike does not count in their order. -/
theorem lex_append_left_iff (p : List Nat) {xs ys : List Nat} :
    List.Lex (· < ·) (p ++ xs) (p ++ ys) ↔ List.Lex (· < ·) xs ys := by
  induction p with
  | nil => rfl
  | cons n p ih =>
      rw [List.cons_append, List.cons_append, List.cons_lex_cons_iff, ih]
      simp

/-! ## Lists side by side -/

theorem exists_left_of_mem {β γ : Type} {R : β → γ → Prop} {xs : List β} {ys : List γ} (h : List.Forall₂ R xs ys)
    {y : γ} (hy : y ∈ ys) : ∃ x ∈ xs, R x y := by
  induction h with
  | nil => cases hy
  | cons hxy _ ih =>
      rcases List.mem_cons.mp hy with rfl | hy
      · exact ⟨_, List.mem_cons_self, hxy⟩
      · obtain ⟨x, hx, hR⟩ := ih hy
        exact ⟨x, List.mem_cons_of_mem _ hx, hR⟩

theorem exists_right_of_mem {β γ : Type} {R : β → γ → Prop} {xs : List β} {ys : List γ} (h : List.Forall₂ R xs ys)
    {x : β} (hx : x ∈ xs) : ∃ y ∈ ys, R x y :=
  exists_left_of_mem h.flip hx

namespace Text

theorem joinWith_eq_intercalate (sep : Text) (parts : List Text) : joinWith sep parts = sep.intercalate parts := by
  cases parts with
  | nil => rfl
  | cons p parts => exact append_flatMap_eq_intercalate sep p parts

/-- Parts that hold no separator are told apart by what they join to. -/
theorem joinWith_injective {c : Char} {ps qs : List Text} (hps : ps ≠ []) (hqs : qs ≠ [])
    (hp : ∀ p ∈ ps, c ∉ p) (hq : ∀ q ∈ qs, c ∉ q) (h : joinWith [c] ps = joinWith [c] qs) : ps = qs := by
  rw [joinWith_eq_intercalate, joinWith_eq_intercalate] at h
  rw [← List.splitOn_intercalate c hp hps, h, List.splitOn_intercalate c hq hqs]

/-! ## Searching -/

/-- Searching a text is searching its positions. -/
theorem findIndex?_eq_find?_range (p : Text → Bool) (t : Text) :
    findIndex? p t = (List.range (t.length + 1)).find? fun i => p (t.drop i) := by
  have hgo : ∀ k, findIndex?.go p t k =
      ((List.range (t.length + 1)).find? fun i => p (t.drop i)).map (k + ·) := by
    induction t with
    | nil =>
        intro k
        cases h : p [] <;> simp [findIndex?.go, h]
    | cons c r ih =>
        intro k
        rw [List.length_cons, List.range_succ_eq_map, List.find?_cons, List.find?_map]
        cases h : p (c :: r) with
        | true => simp [findIndex?.go, h]
        | false =>
            simp only [findIndex?.go, h, Bool.false_eq_true, if_false, ih, List.drop_zero, Option.map_map]
            simp only [Function.comp_def, List.drop_succ_cons, Nat.succ_eq_add_one, Nat.add_assoc, Nat.add_comm 1]
  simpa [findIndex?] using hgo 0

/-- The position that is found is the least one where the rest of the text is as asked for. -/
theorem findIndex?_eq_some_iff {p : Text → Bool} {t : Text} {i : Nat} :
    findIndex? p t = some i ↔ IsLeast { j | j ≤ t.length ∧ p (t.drop j) = true } i := by
  rw [findIndex?_eq_find?_range, List.find?_range_eq_some]
  simp only [List.mem_range, Nat.lt_succ_iff, Bool.not_eq_true']
  constructor
  · rintro ⟨hp, hi, hn⟩
    refine ⟨⟨hi, hp⟩, ?_⟩
    rintro n ⟨_, hpn⟩
    by_contra hlt
    rw [hn n (Nat.lt_of_not_le hlt)] at hpn
    cases hpn
  · rintro ⟨⟨hi, hp⟩, hleast⟩
    refine ⟨hp, hi, ?_⟩
    intro n hlt
    cases hpn : p (t.drop n) with
    | false => rfl
    | true => exact absurd (hleast ⟨by omega, hpn⟩) (Nat.not_le_of_lt hlt)

theorem findIndex?_eq_none_iff {p : Text → Bool} {t : Text} :
    findIndex? p t = none ↔ ∀ i ≤ t.length, p (t.drop i) = false := by
  rw [findIndex?_eq_find?_range, List.find?_range_eq_none]
  simp only [Nat.lt_succ_iff, Bool.not_eq_true']

/-! ## Sorting -/

@[simp] theorem mem_sort {t : Text} {ts : List Text} : t ∈ sort ts ↔ t ∈ ts := List.mem_mergeSort

theorem lex_of_comesBefore {s t : Text} (hle : comesBefore Char.toNat s t = true) (hne : s ≠ t) :
    List.Lex (· < ·) (s.map Char.toNat) (t.map Char.toNat) := by
  by_contra hlex
  have hmap := Std.Trichotomous.trichotomous _ _ hlex (comesBefore_iff.mp hle)
  exact hne (List.map_injective_iff.mpr (fun _ _ => Char.toNat_inj.mp) hmap)

theorem comesBefore_antisymm {s t : Text} (hst : comesBefore Char.toNat s t = true)
    (hts : comesBefore Char.toNat t s = true) : s = t := by
  by_contra hne
  exact comesBefore_iff.mp hts (lex_of_comesBefore hst hne)

theorem pairwise_comesBefore_sort (ts : List Text) :
    (sort ts).Pairwise fun s t => comesBefore Char.toNat s t = true :=
  List.pairwise_mergeSort (fun _ _ _ => comesBefore_trans) comesBefore_total ts

/-- Different texts come in the strict order of their code points. -/
theorem pairwise_sort {ts : List Text} (h : ts.Nodup) :
    (sort ts).Pairwise fun s t => List.Lex (· < ·) (s.map Char.toNat) (t.map Char.toNat) := by
  have hne : (sort ts).Nodup := (List.mergeSort_perm ts _).nodup_iff.mpr h
  exact ((pairwise_comesBefore_sort ts).and hne).imp fun hst => lex_of_comesBefore hst.1 hst.2

@[simp] theorem mem_dropRepeats {t : Text} {ts : List Text} : t ∈ dropRepeats ts ↔ t ∈ ts := by
  induction ts using dropRepeats.induct with
  | case1 s ts ih =>
      rw [dropRepeats, if_pos rfl, ih]
      simp
  | case2 s u ts hne ih =>
      rw [dropRepeats, if_neg hne, List.mem_cons, ih]
      exact List.mem_cons.symm
  | case3 ts hshort => rw [dropRepeats.eq_2 ts hshort]

@[simp] theorem mem_sortedSet {t : Text} {ts : List Text} : t ∈ sortedSet ts ↔ t ∈ ts := by
  rw [sortedSet, mem_dropRepeats, mem_sort]

/-- Without repeats an ascending list is strictly ascending. -/
theorem pairwise_dropRepeats {ts : List Text} (h : ts.Pairwise fun s t => comesBefore Char.toNat s t = true) :
    (dropRepeats ts).Pairwise fun s t => List.Lex (· < ·) (s.map Char.toNat) (t.map Char.toNat) := by
  induction ts using dropRepeats.induct with
  | case1 s ts ih =>
      rw [dropRepeats, if_pos rfl]
      exact ih h.tail
  | case2 s u ts hne ih =>
      rw [dropRepeats, if_neg hne]
      obtain ⟨hs, htail⟩ := List.pairwise_cons.mp h
      refine .cons ?_ (ih htail)
      intro t ht
      have ht := mem_dropRepeats.mp ht
      refine lex_of_comesBefore (hs t ht) ?_
      rintro rfl
      -- what comes behind `u` and equals `s` leaves no room between them
      rcases List.mem_cons.mp ht with rfl | hlater
      · exact hne rfl
      · exact hne (comesBefore_antisymm (hs u List.mem_cons_self) ((List.pairwise_cons.mp htail).1 s hlater))
  | case3 ts hshort =>
      rw [dropRepeats.eq_2 ts hshort]
      match ts, hshort with
      | [], _ => exact .nil
      | [s], _ => exact List.pairwise_singleton _ s
      | s :: u :: ts, hshort => exact absurd rfl (hshort s u ts)

/-- A sorted set is strictly ascending by code points. -/
theorem pairwise_sortedSet (ts : List Text) :
    (sortedSet ts).Pairwise fun s t => List.Lex (· < ·) (s.map Char.toNat) (t.map Char.toNat) :=
  pairwise_dropRepeats (pairwise_comesBefore_sort ts)

end Text
end MarkerAudit
