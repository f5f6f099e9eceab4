import MarkerAudit.Proofs.Pattern.Alternation

/-!
# Searching for markers

The search finds the leftmost place where a marker stands. In bytes that is the least offset at which the bytes of a
marker occur, because the encoding of a marker begins with no continuation byte.
-/

namespace MarkerAudit.MarkerSet

/-- Some marker stands at the position of the text. -/
def OccursAt (markers : List Text) (text : Text) (i : Nat) : Prop := ∃ m ∈ markers, m <+: text.drop i

/-- The bytes of some marker stand at the offset. -/
def BytesAt (markers : List Text) (bytes : Bytes) (o : Nat) : Prop :=
  ∃ m ∈ markers, Utf8.encode m <+: bytes.drop o

instance (markers : List Text) (bytes : Bytes) (o : Nat) : Decidable (BytesAt markers bytes o) :=
  inferInstanceAs (Decidable (∃ m ∈ markers, Utf8.encode m <+: bytes.drop o))

variable {markers : List Text} {line : Text} {i o : Nat}

/-! ## Positions in characters -/

theorem startsAt_iff {ms : MarkerSet} {t : Text} : ms.startsAt t = true ↔ ∃ m ∈ ms.markers, m <+: t := by
  simp [startsAt]

theorem OccursAt.lt_length (hnil : [] ∉ markers) (h : OccursAt markers line i) : i < line.length := by
  obtain ⟨m, hm, hpre⟩ := h
  have hpos : 0 < m.length := List.length_pos_iff.mpr fun he => hnil (he ▸ hm)
  have hle := hpre.length_le
  rw [List.length_drop] at hle
  omega

theorem find?_eq_some_iff {ms : MarkerSet} : ms.find? line = some i ↔ IsLeast { i | OccursAt ms.markers line i } i := by
  have hset : { j | j ≤ line.length ∧ ms.startsAt (line.drop j) = true } = { j | OccursAt ms.markers line j } := by
    ext j
    rw [Set.mem_ofPred_eq, Set.mem_ofPred_eq, startsAt_iff]
    constructor
    · exact And.right
    · intro h
      exact ⟨Nat.le_of_lt (OccursAt.lt_length ms.noEmptyMarker h), h⟩
  rw [find?, Text.findIndex?_eq_some_iff, hset]

theorem find?_eq_none_iff {ms : MarkerSet} : ms.find? line = none ↔ ∀ i, ¬ OccursAt ms.markers line i := by
  rw [find?, Text.findIndex?_eq_none_iff]
  constructor
  · intro h i hocc
    have hstart := h i (Nat.le_of_lt (hocc.lt_length ms.noEmptyMarker))
    rw [startsAt_iff.mpr hocc] at hstart
    cases hstart
  · intro h i _
    rw [Bool.eq_false_iff]
    intro hstart
    exact h i (startsAt_iff.mp hstart)

theorem find?_eq_none_iff_not_infix {ms : MarkerSet} : ms.find? line = none ↔ ∀ m ∈ ms.markers, ¬ m <:+: line := by
  rw [find?_eq_none_iff]
  constructor
  · rintro h m hm ⟨s, t, rfl⟩
    refine h s.length ⟨m, hm, ?_⟩
    rw [List.append_assoc, List.drop_left]
    exact List.prefix_append m t
  · rintro h i ⟨m, hm, hpre⟩
    exact h m hm (hpre.isInfix.trans (List.drop_suffix i line).isInfix)

/-- A marker is found where the pattern of the alternation matches leftmost. -/
theorem find?_eq_some_iff_matchesAt {ms : MarkerSet} :
    ms.find? line = some i ↔
      IsLeast { i | ∃ j, (Pattern.Expr.alternation (ms.markers.map .plain)).MatchesAt line i j } i := by
  have hset : { i | ∃ j, (Pattern.Expr.alternation (ms.markers.map .plain)).MatchesAt line i j } =
      { i | OccursAt ms.markers line i } := by
    ext i
    simp only [Set.mem_ofPred_eq, Pattern.Expr.matchesAt_alternation_plain]
    constructor
    · rintro ⟨_, m, hm, hpre, _⟩
      exact ⟨m, hm, hpre⟩
    · rintro ⟨m, hm, hpre⟩
      exact ⟨_, m, hm, hpre, rfl⟩
  rw [hset, find?_eq_some_iff]

/-! ## Positions in bytes -/

theorem size_take_le {j : Nat} (h : i ≤ j) : Utf8.size (line.take i) ≤ Utf8.size (line.take j) := by
  rw [← Utf8.length_encode, ← Utf8.length_encode, ← Nat.add_sub_cancel' h, List.take_add, Utf8.encode_append,
    List.length_append]
  exact Nat.le_add_right _ _

theorem drop_size_take (line : Text) (i : Nat) :
    (Utf8.encode line).drop (Utf8.size (line.take i)) = Utf8.encode (line.drop i) := by
  have hsplit : Utf8.encode line = Utf8.encode (line.take i) ++ Utf8.encode (line.drop i) := by
    rw [← Utf8.encode_append, List.take_append_drop]
  rw [hsplit, ← Utf8.length_encode, List.drop_left]

/-- Where the bytes of a marker occur in an encoded text, the marker stands behind whole characters. -/
theorem bytesAt_encode_iff (hnil : [] ∉ markers) :
    BytesAt markers (Utf8.encode line) o ↔ ∃ i, OccursAt markers line i ∧ Utf8.size (line.take i) = o := by
  constructor
  · rintro ⟨m, hm, rest, hrest⟩
    have hne : m ≠ [] := fun he => hnil (he ▸ hm)
    obtain ⟨b, bs, he, hb⟩ := Utf8.encode_eq_cons hne
    rw [he, List.cons_append] at hrest
    obtain ⟨s, r, rfl, hs⟩ := Utf8.boundary_of_drop_encode hrest.symm hb
    have hr : Utf8.encode m ++ rest = Utf8.encode r := by
      rw [he, List.cons_append, hrest, Utf8.encode_append, ← hs, List.drop_left]
    refine ⟨s.length, ⟨m, hm, ?_⟩, ?_⟩
    · exact ⟨Utf8.decode rest, by rw [List.drop_left, ← Utf8.decode_encode_append, hr, Utf8.decode_encode]⟩
    · rw [List.take_left, ← Utf8.length_encode, hs]
  · rintro ⟨i, ⟨m, hm, rest, hrest⟩, rfl⟩
    refine ⟨m, hm, Utf8.encode rest, ?_⟩
    rw [drop_size_take, ← hrest, Utf8.encode_append]

theorem findByte?_isLeast {ms : MarkerSet} (h : ms.findByte? line = some o) :
    IsLeast { o | BytesAt ms.markers (Utf8.encode line) o } o := by
  obtain ⟨i, hi, rfl⟩ := Option.map_eq_some_iff.mp h
  obtain ⟨hocc, hleast⟩ := find?_eq_some_iff.mp hi
  refine ⟨(bytesAt_encode_iff ms.noEmptyMarker).mpr ⟨i, hocc, rfl⟩, ?_⟩
  intro o ho
  obtain ⟨j, hj, rfl⟩ := (bytesAt_encode_iff ms.noEmptyMarker).mp ho
  exact size_take_le (hleast hj)

/-- The offset that is found is the least one where the bytes of a marker occur. -/
theorem findByte?_eq_some_iff {ms : MarkerSet} :
    ms.findByte? line = some o ↔ IsLeast { o | BytesAt ms.markers (Utf8.encode line) o } o := by
  constructor
  · exact findByte?_isLeast
  · intro h
    cases hf : ms.findByte? line with
    | none =>
        obtain ⟨i, hocc, _⟩ := (bytesAt_encode_iff ms.noEmptyMarker).mp h.1
        exact absurd hocc (find?_eq_none_iff.mp (Option.map_eq_none_iff.mp hf) i)
    | some o' => rw [(findByte?_isLeast hf).unique h]

theorem findByte?_eq_none_iff {ms : MarkerSet} : ms.findByte? line = none ↔ ∀ m ∈ ms.markers, ¬ m <:+: line := by
  rw [findByte?, Option.map_eq_none_iff, find?_eq_none_iff_not_infix]

theorem findByte?_boundary {ms : MarkerSet} (h : ms.findByte? line = some o) :
    ∃ s r, line = s ++ r ∧ (Utf8.encode s).length = o := by
  obtain ⟨i, _, rfl⟩ := Option.map_eq_some_iff.mp h
  exact ⟨line.take i, line.drop i, (List.take_append_drop i line).symm, Utf8.length_encode _⟩

/-- Only which markers there are counts, not their order or how often they are named. -/
theorem findByte?_congr {ms ms' : MarkerSet} (h : ∀ m, m ∈ ms'.markers ↔ m ∈ ms.markers) (line : Text) :
    ms'.findByte? line = ms.findByte? line := by
  apply Option.ext
  intro o
  rw [findByte?_eq_some_iff, findByte?_eq_some_iff]
  simp only [BytesAt, h]

/-! ## Decoded bytes -/

section Decoded

variable {raw : Bytes}

theorem BytesAt.decode_eq (hnil : [] ∉ markers) (h : BytesAt markers raw o) :
    Utf8.decode raw = Utf8.decode (raw.take o) ++ Utf8.decode (raw.drop o) ∧ raw.drop o ≠ [] := by
  obtain ⟨m, hm, rest, hrest⟩ := h
  obtain ⟨b, bs, he, hb⟩ := Utf8.encode_eq_cons fun he => hnil (he ▸ hm)
  rw [he, List.cons_append] at hrest
  have hsplit : Utf8.decode (raw.take o ++ raw.drop o) = Utf8.decode (raw.take o) ++ Utf8.decode (raw.drop o) := by
    rw [← hrest, Utf8.decode_append _ hb]
  rw [List.take_append_drop] at hsplit
  exact ⟨hsplit, by rw [← hrest]; exact List.cons_ne_nil _ _⟩

/-- Where the bytes of a marker stand, decoding the bytes before and behind apart changes nothing. -/
theorem BytesAt.drop_decode (hnil : [] ∉ markers) (h : BytesAt markers raw o) :
    (Utf8.decode raw).drop (Utf8.decode (raw.take o)).length = Utf8.decode (raw.drop o) := by
  rw [(h.decode_eq hnil).1, List.drop_left]

theorem BytesAt.occursAt (hnil : [] ∉ markers) (h : BytesAt markers raw o) :
    OccursAt markers (Utf8.decode raw) (Utf8.decode (raw.take o)).length := by
  have hdrop := h.drop_decode hnil
  obtain ⟨m, hm, rest, hrest⟩ := h
  refine ⟨m, hm, Utf8.decode rest, ?_⟩
  rw [hdrop, ← hrest, Utf8.decode_encode_append]

/-- A marker that stands earlier among the bytes stands earlier in the text. -/
theorem BytesAt.length_decode_lt {o' : Nat} (hnil : [] ∉ markers) (h : BytesAt markers raw o)
    (h' : BytesAt markers raw o') (hlt : o < o') :
    (Utf8.decode (raw.take o)).length < (Utf8.decode (raw.take o')).length := by
  have hlen : o' < raw.length := by
    have hne := (h'.decode_eq hnil).2
    exact Nat.lt_of_not_le fun hle => hne (List.drop_eq_nil_of_le hle)
  obtain ⟨m, hm, rest, hrest⟩ := h
  obtain ⟨b, bs, he, hb⟩ := Utf8.encode_eq_cons fun he => hnil (he ▸ hm)
  rw [he, List.cons_append] at hrest
  have htake : raw.take o' = raw.take o ++ b :: (bs ++ rest).take (o' - o - 1) := by
    rw [← Nat.add_sub_cancel' (Nat.le_of_lt hlt), List.take_add, ← hrest, Nat.add_sub_cancel_left]
    obtain ⟨d, hd⟩ := Nat.exists_eq_add_of_lt hlt
    rw [show o' - o = d + 1 by omega, List.take_succ_cons, Nat.add_sub_cancel]
  rw [htake, Utf8.decode_append _ hb, List.length_append]
  have hpos := List.length_pos_iff.mpr
    (mt Utf8.decode_eq_nil_iff.mp (List.cons_ne_nil b ((bs ++ rest).take (o' - o - 1))))
  omega

/-- A marker without U+FFFD that stands in the text stands among the bytes. -/
theorem exists_bytesAt (hrepl : ∀ m ∈ markers, Utf8.replacement ∉ m)
    (h : OccursAt markers (Utf8.decode raw) i) :
    ∃ o, BytesAt markers raw o ∧ (Utf8.decode raw).drop i = Utf8.decode (raw.drop o) ∧
      (i ≤ (Utf8.decode raw).length → (Utf8.decode (raw.take o)).length = i) := by
  obtain ⟨m, hm, r, hr⟩ := h
  obtain ⟨as, bs, rfl, has, hbs⟩ := Utf8.decode_eq_append (List.take_append_drop i (Utf8.decode raw)).symm
  obtain ⟨rest, rfl, _⟩ := Utf8.encode_of_decode_eq_append (hrepl m hm) (hbs.trans hr.symm)
  refine ⟨as.length, ⟨m, hm, rest, by rw [List.drop_left]⟩, by rw [List.drop_left, hbs], ?_⟩
  intro hi
  rw [List.take_left, has, List.length_take, Nat.min_eq_left hi]

/-- The leftmost marker of a decoded line is the one whose bytes come first. -/
theorem find?_decode_eq_some_iff {ms : MarkerSet} (hrepl : ∀ m ∈ ms.markers, Utf8.replacement ∉ m) :
    ms.find? (Utf8.decode raw) = some i ↔
      ∃ o, IsLeast { o | BytesAt ms.markers raw o } o ∧ (Utf8.decode (raw.take o)).length = i := by
  rw [MarkerSet.find?_eq_some_iff]
  -- decoding keeps the order of places where markers stand, so the least of one kind is the least of the other
  constructor
  · rintro ⟨hocc, hleast⟩
    obtain ⟨o, ho, _, hi⟩ := exists_bytesAt hrepl hocc
    have hi := hi (Nat.le_of_lt (OccursAt.lt_length ms.noEmptyMarker hocc))
    refine ⟨o, ⟨ho, ?_⟩, hi⟩
    intro o' ho'
    rcases Nat.lt_or_ge o' o with hlt | hge
    · have hshorter := BytesAt.length_decode_lt ms.noEmptyMarker ho' ho hlt
      have hle : i ≤ _ := hleast (BytesAt.occursAt ms.noEmptyMarker ho')
      omega
    · exact hge
  · rintro ⟨o, ⟨ho, hleast⟩, rfl⟩
    refine ⟨BytesAt.occursAt ms.noEmptyMarker ho, ?_⟩
    intro i hi
    obtain ⟨o', ho', _, hlen⟩ := exists_bytesAt hrepl hi
    rw [← hlen (Nat.le_of_lt (OccursAt.lt_length ms.noEmptyMarker hi))]
    rcases Nat.lt_or_eq_of_le (hleast ho') with hlt | rfl
    · exact Nat.le_of_lt (BytesAt.length_decode_lt ms.noEmptyMarker ho ho' hlt)
    · exact Nat.le_refl _

end Decoded

/-! ## Accepted markers -/

theorem ofList?_eq_missing_iff : ofList? markers = .error .missing ↔ markers = [] ∨ [] ∈ markers := by
  unfold ofList?
  split
  · rename_i h
    simp [h]
  · rename_i h
    split <;> simp [h]

theorem ofList?_of_fits {e : Pattern.Expr Pattern.Atom} (hne : markers ≠ []) (hnil : [] ∉ markers)
    (hparse : Pattern.parse (alternation markers) = .ok e) (hfits : e.fits = true) :
    ofList? markers = .ok ⟨markers, hne, hnil⟩ := by
  have hnot : ¬ (markers = [] ∨ [] ∈ markers) := not_or.mpr ⟨hne, hnil⟩
  rw [ofList?, dif_neg hnot]
  simp only [Pattern.ofText_eq hparse, hfits, if_true]

theorem ofList?_of_not_fits {e : Pattern.Expr Pattern.Atom} (hne : markers ≠ []) (hnil : [] ∉ markers)
    (hparse : Pattern.parse (alternation markers) = .ok e) (hfits : e.fits = false) :
    ofList? markers = .error (.refused .tooLarge) := by
  have hnot : ¬ (markers = [] ∨ [] ∈ markers) := not_or.mpr ⟨hne, hnil⟩
  rw [ofList?, dif_neg hnot]
  simp only [Pattern.ofText_eq hparse, hfits, Bool.false_eq_true, if_false]

/-- Texts are refused as missing just when there are none or one is empty. Others give a pattern that is no syntax
error; if it is small enough they are accepted, and then the search finds the least byte offset where one of them
occurs, which is where the pattern matches leftmost. -/
theorem ofList?_search_literal (markers : List Text) :
    (ofList? markers = .error .missing ↔ markers = [] ∨ [] ∈ markers) ∧
    (markers ≠ [] → [] ∉ markers → ∃ e, Pattern.parse (alternation markers) = .ok e ∧
      (e.fits = false → ofList? markers = .error (.refused .tooLarge)) ∧
      (e.fits = true → ∃ ms, ofList? markers = .ok ms ∧ ms.markers = markers ∧ ∀ line,
        (∀ o, ms.findByte? line = some o ↔ IsLeast { o | BytesAt markers (Utf8.encode line) o } o) ∧
        (ms.findByte? line = none ↔ ∀ m ∈ markers, ¬ m <:+: line) ∧
        (∀ o, ms.findByte? line = some o → ∃ s r, line = s ++ r ∧ (Utf8.encode s).length = o) ∧
        (∀ i, ms.find? line = some i ↔ IsLeast { i | ∃ j, e.MatchesAt line i j } i) ∧
        ∀ ms' : MarkerSet, (∀ m, m ∈ ms'.markers ↔ m ∈ markers) → ms'.findByte? line = ms.findByte? line)) := by
  refine ⟨ofList?_eq_missing_iff, ?_⟩
  intro hne hnil
  have hparse := Pattern.parse_alternation hne hnil
  refine ⟨_, hparse, ofList?_of_not_fits hne hnil hparse, ?_⟩
  intro hfits
  refine ⟨⟨markers, hne, hnil⟩, ofList?_of_fits hne hnil hparse hfits, rfl, ?_⟩
  intro line
  exact ⟨fun _ => findByte?_eq_some_iff, findByte?_eq_none_iff, fun _ => findByte?_boundary,
    fun _ => find?_eq_some_iff_matchesAt, fun _ h => findByte?_congr h line⟩

/-- A marker that begins another one is found at the same place, in whatever order they are named. -/
theorem ofList?_search_literal_overlapping :
    ∃ ms, ofList? ["TO".toList, "TODO:".toList] = .ok ms ∧ ms.findByte? "\u00e9 TODO: x".toList = some 3 := by
  obtain ⟨e, hparse, _, hok⟩ :=
    (ofList?_search_literal ["TO".toList, "TODO:".toList]).2 (by decide) (by decide)
  have he := @Pattern.parse_alternation ["TO".toList, "TODO:".toList] (by decide) (by decide)
  rw [hparse] at he
  have hfits : e.fits = true := by
    rw [Except.ok.inj he]
    decide +kernel
  obtain ⟨ms, hms, _, hsearch⟩ := hok hfits
  refine ⟨ms, hms, ?_⟩
  obtain ⟨_, _, _, _, hcongr⟩ := hsearch "\u00e9 TODO: x".toList
  rw [← hcongr ⟨["TODO:".toList, "TO".toList, "TO".toList], by decide, by decide⟩ (by simp [or_comm])]
  decide +kernel

end MarkerAudit.MarkerSet
