import MarkerAudit.Proofs.Pattern.Matching
import MarkerAudit.Proofs.Pattern.Reading

/-!
# Alternatives of plain texts

The alternation of markers is never refused as malformed, and it means one plain text or another.
-/

namespace MarkerAudit.Pattern

/-! ## From trees to expressions -/

theorem elaborateAll_eq {items : List Ast} {es : List (Expr Atom)}
    (h : List.Forall₂ (fun a e => a.elaborate {} = .ok (e, {})) items es) (done : List (Expr Atom)) :
    Ast.elaborate.elaborateAll {} items done = .ok (done.reverse ++ es, {}) := by
  induction h generalizing done with
  | nil => simp [Ast.elaborate.elaborateAll]
  | cons he _ ih => simp [Ast.elaborate.elaborateAll, he, ih]

theorem elaborate_concat {items : List Ast} {es : List (Expr Atom)} (span : Span)
    (h : List.Forall₂ (fun a e => a.elaborate {} = .ok (e, {})) items es) :
    Ast.elaborate {} (.concat span items) = .ok (.concat es, {}) := by
  simp [Ast.elaborate, elaborateAll_eq h]

theorem elaborate_capture {body : Ast} {e : Expr Atom} (span : Span) (h : body.elaborate {} = .ok (e, {})) :
    Ast.elaborate {} (.group span .capture body) = .ok (.capture e, {}) := by
  simp [Ast.elaborate, h]

theorem elaborate_plainGroup {body : Ast} {e : Expr Atom} (span : Span) (h : body.elaborate {} = .ok (e, {})) :
    Ast.elaborate {} (.group span (.plain []) body) = .ok (e, {}) := by
  rw [Ast.elaborate, show Modes.apply {} [] = {} from rfl, h]

theorem Ast.IsChar.elaborate {c : Char} {a : Ast} (h : a.IsChar c) : a.elaborate {} = .ok (.run [.char c], {}) := by
  obtain ⟨span, rfl⟩ := h
  rfl

theorem concat_chars (c : Char) (t : Text) :
    Expr.concat ((c :: t).map fun c => .run [.char c]) = Expr.plain (c :: t) := by
  have hfold : ((c :: t).map fun c => Expr.run [Atom.char c]).foldr Expr.cons [] = [Expr.plain (c :: t)] := by
    induction t generalizing c with
    | nil => rfl
    | cons d t ih =>
        rw [List.map_cons, List.foldr_cons, ih d]
        rfl
  rw [Expr.concat, hfold]

theorem Ast.Spells.elaborate {t : Text} {a : Ast} (ht : t ≠ []) (h : a.Spells t) :
    a.elaborate {} = .ok (.plain t, {}) := by
  obtain ⟨l, stop, hitems, rfl⟩ := h
  unfold Level.branch
  split
  · rename_i hl
    rw [hl] at hitems
    exact absurd (List.forall₂_nil_right_iff.mp hitems) ht
  · rename_i a hl
    rw [hl] at hitems
    obtain ⟨c, t, hc, hnil, rfl⟩ := List.forall₂_cons_right_iff.mp hitems
    rw [List.forall₂_nil_right_iff.mp hnil]
    exact hc.elaborate
  · cases t with
    | nil => exact absurd rfl ht
    | cons c t =>
        have hall : List.Forall₂ (fun a e => a.elaborate {} = .ok (e, {})) l.items.reverse
            ((c :: t).map fun c => .run [.char c]) :=
          List.forall₂_map_right_iff.mpr (hitems.flip.imp fun _ _ => Ast.IsChar.elaborate)
        rw [elaborate_concat _ hall, concat_chars]

theorem Ast.SpellsAny.elaborate {ts : List Text} {a : Ast} (hts : [] ∉ ts) (h : a.SpellsAny ts) :
    a.elaborate {} = .ok (.alternation (ts.map .plain), {}) := by
  obtain ⟨bs, hbs, rfl | ⟨span, rfl⟩⟩ := h
  · obtain ⟨t, ts, ha, hnil, rfl⟩ := List.forall₂_cons_right_iff.mp hbs
    rw [List.forall₂_nil_right_iff.mp hnil] at hts ⊢
    rw [ha.elaborate fun ht => hts (ht ▸ List.mem_cons_self)]
    rfl
  · have hne : ∀ t ∈ ts, t ≠ [] := fun t ht he => hts (he ▸ ht)
    have hall : List.Forall₂ (fun a e => a.elaborate {} = .ok (e, {})) bs (ts.map .plain) :=
      List.forall₂_map_right_iff.mpr
        (((List.forall₂_and_left ts bs).mpr ⟨hne, hbs⟩).flip.imp fun _ _ h => h.2.elaborate h.1)
    simp [Ast.elaborate, elaborateAll_eq hall]

/-! ## Depth -/

theorem anyTooDeep?_eq_none {room : Nat} {items : List Ast} (h : ∀ a ∈ items, a.tooDeep? room = none) :
    Ast.tooDeep?.anyTooDeep? room items = none := by
  induction items with
  | nil => rfl
  | cons a items ih =>
      rw [List.forall_mem_cons] at h
      simp only [Ast.tooDeep?.anyTooDeep?, h.1, ih h.2]

theorem Ast.Spells.tooDeep?_eq_none {t : Text} {a : Ast} (h : a.Spells t) (room : Nat) :
    a.tooDeep? (room + 1) = none := by
  obtain ⟨l, stop, hitems, rfl⟩ := h
  have hchar : ∀ a ∈ l.items, ∀ room, a.tooDeep? room = none := by
    intro a ha room
    obtain ⟨c, _, span, rfl⟩ := exists_left_of_mem hitems (List.mem_reverse.mpr ha)
    rfl
  unfold Level.branch
  split
  · rfl
  · rename_i a hl
    exact hchar a (by simp [hl]) _
  · rename_i items _ _
    exact anyTooDeep?_eq_none fun a ha => hchar a (List.mem_reverse.mp ha) room

theorem Ast.SpellsAny.tooDeep?_eq_none {ts : List Text} {a : Ast} (h : a.SpellsAny ts) (room : Nat) :
    a.tooDeep? (room + 2) = none := by
  obtain ⟨bs, hbs, hshape⟩ := h
  have hb : ∀ b ∈ bs, ∀ room, b.tooDeep? (room + 1) = none := by
    intro b hmem
    obtain ⟨t, _, ht⟩ := exists_left_of_mem hbs hmem
    exact ht.tooDeep?_eq_none
  rcases hshape with rfl | ⟨span, rfl⟩
  · exact hb a List.mem_cons_self (room + 1)
  · exact anyTooDeep?_eq_none fun b hmem => hb b hmem room

/-- Escaped markers in a group are no syntax error, whatever characters they hold. -/
theorem parse_alternation {markers : List Text} (hne : markers ≠ []) (hnil : [] ∉ markers) :
    parse (MarkerSet.alternation markers) = .ok (.alternation (markers.map .plain)) := by
  obtain ⟨span, body, stop, hbody, hread⟩ := reads_alternation ⟨.begin 0, [], []⟩ 0 hne
  have hdeep : (Ast.group span (.plain []) body).tooDeep? nestLimit = none := hbody.tooDeep?_eq_none 247
  have htree : Ast.ofText (MarkerSet.alternation markers) = .ok (.group span (.plain []) body) := by
    simp only [Ast.ofText, Cursor.ofText, hread.finish]
    simp only [ReadState.finish, ReadState.push, Level.push, Level.begin, Level.close, Level.branch, hdeep]
  rw [parse, htree]
  simp only [elaborate_plainGroup span (hbody.elaborate hnil)]

/-- A text that is no syntax error is a pattern if that is small enough. -/
theorem ofText_eq {source : Text} {e : Expr Atom} (h : parse source = .ok e) :
    Pattern.ofText source = if e.fits = true then .ok ⟨source, e⟩ else .error .tooLarge := by
  simp only [Pattern.ofText, h]

end MarkerAudit.Pattern
