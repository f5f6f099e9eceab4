import MarkerAudit.MarkerSet
import MarkerAudit.Proofs.Text

/-!
# Reading escaped texts

What the reader makes of a stretch of a pattern does not depend on what follows. From the steps for single
characters it follows that an escaped text is read as its characters, and a group of escaped texts as one
alternative for each of them.
-/

namespace MarkerAudit.Pattern

/-! ## Stretches of a pattern -/

/-- Reading the text at a position takes one state to another, whatever follows. -/
def Reads (s : ReadState) (pos : Nat) (text : Text) (s' : ReadState) (pos' : Nat) : Prop :=
  ∃ n ≤ text.length, ∀ tail fuel,
    readAll (n + fuel) s ⟨text ++ tail, pos, false⟩ = readAll fuel s' ⟨tail, pos', false⟩

namespace Reads

theorem refl (s : ReadState) (pos : Nat) : Reads s pos [] s pos :=
  ⟨0, Nat.le_refl 0, fun tail fuel => by rw [Nat.zero_add, List.nil_append]⟩

theorem trans {s₁ s₂ s₃ : ReadState} {p₁ p₂ p₃ : Nat} {t u : Text} (h : Reads s₁ p₁ t s₂ p₂)
    (h' : Reads s₂ p₂ u s₃ p₃) : Reads s₁ p₁ (t ++ u) s₃ p₃ := by
  obtain ⟨m, hm, ht⟩ := h
  obtain ⟨n, hn, hu⟩ := h'
  refine ⟨m + n, by rw [List.length_append]; omega, ?_⟩
  intro tail fuel
  rw [List.append_assoc, Nat.add_assoc, ht, hu]

/-- One construct is one step. What comes next may count for how it is read. -/
theorem step {s s' s'' : ReadState} {pos pos' pos'' : Nat} {d : Char} (text : Text) {next : Text}
    (h : ∀ tail, readConstruct s d ⟨d :: text ++ (next ++ tail), pos, false⟩ = .ok (s', ⟨next ++ tail, pos', false⟩))
    (hnext : Reads s' pos' next s'' pos'') : Reads s pos (d :: text ++ next) s'' pos'' := by
  obtain ⟨n, hn, ht⟩ := hnext
  refine ⟨n + 1, by simp only [List.length_append, List.length_cons]; omega, ?_⟩
  intro tail fuel
  have hd := h tail
  rw [List.cons_append] at hd
  rw [List.append_assoc, List.cons_append, Nat.add_right_comm, readAll]
  simp only [Cursor.skipBlanks, Bool.false_eq_true, if_false, hd]
  exact ht tail fuel

theorem construct {s s' : ReadState} {pos pos' : Nat} {d : Char} {text : Text}
    (h : ∀ tail, readConstruct s d ⟨d :: text ++ tail, pos, false⟩ = .ok (s', ⟨tail, pos', false⟩)) :
    Reads s pos (d :: text) s' pos' := by
  have hread := @step s s' s' pos pos' pos' d text [] h (.refl s' pos')
  rwa [List.append_nil] at hread

/-- At the end of the pattern the state is finished. -/
theorem finish {s s' : ReadState} {pos pos' : Nat} {text : Text} (h : Reads s pos text s' pos') :
    readAll (text.length + 1) s ⟨text, pos, false⟩ = s'.finish pos' := by
  obtain ⟨n, hn, ht⟩ := h
  have hend := ht [] (text.length + 1 - n)
  rw [List.append_nil, Nat.add_sub_cancel' (by omega)] at hend
  rw [hend]
  cases hf : text.length + 1 - n with
  | zero => rfl
  | succ fuel => simp [readAll, Cursor.skipBlanks]

end Reads

/-! ## Characters -/

/-- The tree is the given character. -/
def Ast.IsChar (c : Char) (a : Ast) : Prop := ∃ span, a = .literal { span, char := c }

/-- The state with items added to the current branch. -/
def ReadState.pushAll (s : ReadState) (items : List Ast) : ReadState :=
  { s with level := { s.level with items := items.reverse ++ s.level.items } }

/-- The characters that operators of a pattern are written with. -/
def operators : Text := ['\\', '.', '+', '*', '?', '(', ')', '|', '[', ']', '\x7b', '\x7d', '^', '$']

theorem metaCharacters_eq : metaCharacters = operators ++ ['#', '&', '-', '~'] := rfl

/-- Any other character is read as itself. -/
theorem reads_char (s : ReadState) (pos : Nat) {c : Char} (h : c ∉ operators) :
    Reads s pos [c] (s.push (.literal { span := ⟨pos, pos + 1⟩, char := c })) (pos + 1) := by
  refine .construct fun tail => ?_
  simp only [operators, List.mem_cons, not_or] at h
  simp [readConstruct, readPrimitive, Cursor.advance, h, Primitive.toAst, Cursor.charSpan]

theorem reads_escapedChar (s : ReadState) (pos : Nat) (c : Char) :
    ∃ a pos', a.IsChar c ∧ Reads s pos (if metaCharacters.contains c then ['\\', c] else [c]) (s.push a) pos' := by
  by_cases h : c ∈ metaCharacters
  · refine ⟨.literal { span := ⟨pos, pos + 2⟩, char := c }, pos + 2, ⟨_, rfl⟩, ?_⟩
    have hesc : isEscapable c = true := by simp [isEscapable, h]
    rw [if_pos (List.contains_iff_mem.mpr h)]
    refine .construct fun tail => ?_
    simp [readConstruct, readPrimitive, readEscape, Cursor.advance, hesc, Primitive.toAst, Cursor.spanFrom]
  · rw [if_neg (mt List.contains_iff_mem.mp h)]
    rw [metaCharacters_eq, List.mem_append] at h
    exact ⟨_, pos + 1, ⟨_, rfl⟩, reads_char s pos (not_or.mp h).1⟩

/-- Where each character is written so that it is read as itself, a text is read as its characters. -/
theorem reads_chars {write : Char → Text} {t : Text}
    (h : ∀ c ∈ t, ∀ s pos, ∃ a pos', Ast.IsChar c a ∧ Reads s pos (write c) (s.push a) pos') (s : ReadState)
    (pos : Nat) :
    ∃ items pos', List.Forall₂ Ast.IsChar t items ∧ Reads s pos (t.flatMap write) (s.pushAll items) pos' := by
  induction t generalizing s pos with
  | nil => exact ⟨[], pos, .nil, .refl s pos⟩
  | cons c t ih =>
      obtain ⟨hc, ht⟩ := List.forall_mem_cons.mp h
      obtain ⟨a, mid, ha, hfirst⟩ := hc s pos
      obtain ⟨items, pos', hitems, hrest⟩ := ih ht (s.push a) mid
      refine ⟨a :: items, pos', .cons ha hitems, ?_⟩
      have hpush : (s.push a).pushAll items = s.pushAll (a :: items) := by
        simp [ReadState.push, ReadState.pushAll, Level.push]
      rw [List.flatMap_cons, ← hpush]
      exact hfirst.trans hrest

/-- An escaped text is read as its characters. -/
theorem reads_escape (s : ReadState) (pos : Nat) (t : Text) :
    ∃ items pos', List.Forall₂ Ast.IsChar t items ∧ Reads s pos (escape t) (s.pushAll items) pos' :=
  reads_chars (fun c _ s pos => reads_escapedChar s pos c) s pos

/-- A text without operators is read as its characters as it stands. -/
theorem reads_plain (s : ReadState) (pos : Nat) {t : Text} (h : ∀ c ∈ t, c ∉ operators) :
    ∃ items pos', List.Forall₂ Ast.IsChar t items ∧ Reads s pos t (s.pushAll items) pos' := by
  have hread := @reads_chars (fun c => [c]) t
    (fun c hc s pos => ⟨_, pos + 1, ⟨_, rfl⟩, reads_char s pos (h c hc)⟩) s pos
  rwa [List.flatMap_singleton'] at hread

/-! ## Alternatives of escaped texts -/

/-- The tree is a branch that holds the characters of the text. -/
def Ast.Spells (t : Text) (a : Ast) : Prop :=
  ∃ (l : Level) (stop : Nat), List.Forall₂ Ast.IsChar t l.items.reverse ∧ a = l.branch stop

/-- The tree is the branches of the texts, an alternative where there are several. -/
def Ast.SpellsAny (ts : List Text) (a : Ast) : Prop :=
  ∃ bs, List.Forall₂ Ast.Spells ts bs ∧ (bs = [a] ∨ ∃ span, a = .alternation span bs)

theorem reads_bar (s : ReadState) (pos : Nat) :
    Reads s pos ['|'] { s with level := s.level.nextBranch pos (pos + 1) } (pos + 1) :=
  .construct fun _ => rfl

/-- Escaped texts with bars between them are read as one branch each. -/
theorem reads_branches (s : ReadState) (pos : Nat) (t : Text) (ts : List Text) (hs : s.level.items = []) :
    ∃ l pos', Reads s pos (Text.joinWith ['|'] ((t :: ts).map escape)) { s with level := l } pos' ∧
      ∀ stop, ∃ bs, List.Forall₂ Ast.Spells (t :: ts) bs ∧
        (l.branch stop :: l.branches).reverse = s.level.branches.reverse ++ bs := by
  -- a bar leaves an empty branch, which is what the next text is read into
  induction ts generalizing s pos t with
  | nil =>
      obtain ⟨items, pos', hitems, hread⟩ := reads_escape s pos t
      refine ⟨(s.pushAll items).level, pos', ?_, ?_⟩
      · simpa [Text.joinWith, ReadState.pushAll] using hread
      · intro stop
        refine ⟨[(s.pushAll items).level.branch stop], .cons ⟨_, stop, ?_, rfl⟩ .nil, ?_⟩
        · simpa [ReadState.pushAll, hs] using hitems
        · simp [ReadState.pushAll]
  | cons u ts ih =>
      obtain ⟨items, mid, hitems, hfirst⟩ := reads_escape s pos t
      have hbar := reads_bar (s.pushAll items) mid
      obtain ⟨l, pos', hrest, hl⟩ :=
        ih { s with level := (s.pushAll items).level.nextBranch mid (mid + 1) } (mid + 1) u rfl
      refine ⟨l, pos', ?_, ?_⟩
      · have hjoin : Text.joinWith ['|'] ((t :: u :: ts).map escape) =
            escape t ++ (['|'] ++ Text.joinWith ['|'] ((u :: ts).map escape)) := by
          simp [Text.joinWith]
        rw [hjoin]
        exact hfirst.trans (hbar.trans hrest)
      · intro stop
        obtain ⟨bs, hbs, heq⟩ := hl stop
        refine ⟨_ :: bs, .cons ⟨(s.pushAll items).level, mid, ?_, rfl⟩ hbs, ?_⟩
        · simpa [ReadState.pushAll, hs] using hitems
        · rw [heq]
          simp [Level.nextBranch, ReadState.pushAll]

/-! ## Groups -/

/-- A name is read up to the angle bracket behind it. -/
theorem readName_append {name : Text} (hname : ∀ c ∈ name, c ≠ '>' ∧ ∀ first, isNameChar first c = true)
    (start : Nat) (done tail : Text) (pos fuel : Nat) (hfuel : name.length < fuel) :
    readName fuel start done ⟨name ++ '>' :: tail, pos, false⟩ =
      .ok (done.reverse ++ name, ⟨'>' :: tail, pos + name.length, false⟩) := by
  induction name generalizing done pos fuel with
  | nil =>
      cases fuel with
      | zero => cases hfuel
      | succ fuel => simp [readName]
  | cons c name ih =>
      rw [List.forall_mem_cons] at hname
      cases fuel with
      | zero => cases hfuel
      | succ fuel =>
          have hrest := ih hname.2 (c :: done) (pos + 1) fuel (by rw [List.length_cons] at hfuel; omega)
          simp only [readName, List.cons_append, hname.1.1, hname.1.2, if_false, if_true, Cursor.advance, hrest]
          simp only [List.reverse_cons, List.append_assoc, List.singleton_append, List.length_cons]
          rw [Nat.add_right_comm, Nat.add_assoc]

/-- The state behind the opening of a group with a name. -/
def ReadState.enterNamed (s : ReadState) (pos : Nat) (name : Text) : ReadState where
  level := .begin (pos + 4 + name.length + 1)
  enclosing := ⟨pos, .capture, s.level, false⟩ :: s.enclosing
  names := (name, ⟨pos + 4, pos + 4 + name.length⟩) :: s.names

theorem reads_namedGroupOpening (s : ReadState) (pos : Nat) {name : Text} (hne : name ≠ [])
    (hname : ∀ c ∈ name, c ≠ '>' ∧ ∀ first, isNameChar first c = true) (hnew : ∀ n ∈ s.names, n.1 ≠ name) :
    Reads s pos ('(' :: (['?', 'P', '<'] ++ name ++ ['>'])) (s.enterNamed pos name) (pos + 4 + name.length + 1) := by
  refine .construct fun tail => ?_
  have hread := readName_append hname (pos + 4) [] tail (pos + 4) (name.length + (tail.length + 1) + 1) (by omega)
  have hfind : s.names.find? (fun n => n.1 = name) = none := by
    rw [List.find?_eq_none]
    simpa using hnew
  have hopen : readGroupOpening pos ⟨'(' :: (['?', 'P', '<'] ++ name ++ ['>']) ++ tail, pos, false⟩ =
      .ok (.named name ⟨pos + 4, pos + 4 + name.length⟩, ⟨tail, pos + 4 + name.length + 1, false⟩) := by
    simp [readGroupOpening, Cursor.next, Cursor.advance, Cursor.skipBlanks, Cursor.startsWith, Cursor.advanceBy,
      Cursor.spanFrom, hread, hne]
  simp only [readConstruct, if_true, readOpeningParen, hopen, hfind]
  rfl

/-! ## Groups of alternatives -/

/-- The state behind the opening of a group without flags. -/
def ReadState.enter (s : ReadState) (pos : Nat) : ReadState where
  level := .begin (pos + 3)
  enclosing := ⟨pos, .plain [], s.level, false⟩ :: s.enclosing
  names := s.names

theorem reads_groupOpening (s : ReadState) (pos : Nat) :
    Reads s pos ['(', '?', ':'] (s.enter pos) (pos + 3) :=
  .construct fun _ => rfl

theorem reads_groupClosing (l : Level) {g : OpenGroup} (hg : g.ignoreBlanks = false) (enclosing : List OpenGroup)
    (names : List (Text × Span)) (pos : Nat) :
    Reads ⟨l, g :: enclosing, names⟩ pos [')']
      ⟨g.outer.push (.group ⟨g.start, pos + 1⟩ g.kind (l.close pos)), enclosing, names⟩ (pos + 1) := by
  refine .construct fun tail => ?_
  simp [readConstruct, readClosingParen, Cursor.advance, Cursor.spanFrom, hg]

theorem Level.close_spellsAny {l : Level} {stop : Nat} {ts : List Text} {bs : List Ast}
    (hbs : List.Forall₂ Ast.Spells ts bs) (h : (l.branch stop :: l.branches).reverse = bs) :
    (l.close stop).SpellsAny ts := by
  refine ⟨bs, hbs, ?_⟩
  unfold Level.close
  cases hb : l.branches with
  | nil => exact .inl (by rw [← h, hb]; rfl)
  | cons b rest => exact .inr ⟨_, by rw [← h, hb]⟩

/-- The alternation of markers is read as one group of a branch for each of them. -/
theorem reads_alternation (s : ReadState) (pos : Nat) {markers : List Text} (h : markers ≠ []) :
    ∃ span body pos', body.SpellsAny markers ∧
      Reads s pos (MarkerSet.alternation markers) (s.push (.group span (.plain []) body)) pos' := by
  cases markers with
  | nil => exact absurd rfl h
  | cons t ts =>
      obtain ⟨l, stop, hread, hl⟩ := reads_branches (s.enter pos) (pos + 3) t ts rfl
      obtain ⟨bs, hbs, heq⟩ := hl stop
      refine ⟨⟨pos, stop + 1⟩, l.close stop, stop + 1, Level.close_spellsAny hbs heq, ?_⟩
      exact ((reads_groupOpening s pos).trans hread).trans (reads_groupClosing l rfl s.enclosing s.names stop)

end MarkerAudit.Pattern
