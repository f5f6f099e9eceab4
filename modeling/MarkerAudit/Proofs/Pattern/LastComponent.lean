import MarkerAudit.PathFilter
import MarkerAudit.Proofs.Pattern.Size

/-!
# The pattern of a last component

The pattern that drops the tool itself is never a syntax error, whatever characters the name holds. It is found in a
path just where the name is the last component, and it is refused only for names that are too long.
-/

namespace MarkerAudit.Pattern

open MarkerAudit.Pattern.Expr

variable {name path : Text}

/-! ## Reading -/

/-- The tree of a component's start. -/
def startGroup : Ast :=
  .group ⟨0, 7⟩ (.plain [])
    (.alternation ⟨3, 6⟩ [.anchor ⟨3, 4⟩ .lineStart, .literal { span := ⟨5, 6⟩, char := '/' }])

theorem reads_startGroup :
    Reads ⟨.begin 0, [], []⟩ 0 "(?:^|/)".toList ⟨⟨[], 0, [startGroup], 0⟩, [], []⟩ 7 := by
  have hopen := reads_groupOpening ⟨.begin 0, [], []⟩ 0
  have hstart : Reads (ReadState.enter ⟨.begin 0, [], []⟩ 0) 3 ['^']
      ((ReadState.enter ⟨.begin 0, [], []⟩ 0).push (.anchor ⟨3, 4⟩ .lineStart)) 4 := .construct fun _ => rfl
  have hbar := reads_bar ((ReadState.enter ⟨.begin 0, [], []⟩ 0).push (.anchor ⟨3, 4⟩ .lineStart)) 4
  have hslash : Reads ⟨⟨[.anchor ⟨3, 4⟩ .lineStart], 3, [], 5⟩, [⟨0, .plain [], .begin 0, false⟩], []⟩ 5 ['/']
      ⟨⟨[.anchor ⟨3, 4⟩ .lineStart], 3, [.literal { span := ⟨5, 6⟩, char := '/' }], 5⟩,
        [⟨0, .plain [], .begin 0, false⟩], []⟩ 6 := .construct fun _ => rfl
  have hclose := reads_groupClosing
    ⟨[.anchor ⟨3, 4⟩ .lineStart], 3, [.literal { span := ⟨5, 6⟩, char := '/' }], 5⟩
    (g := ⟨0, .plain [], .begin 0, false⟩) rfl [] [] 6
  exact hopen.trans (hstart.trans (hbar.trans (hslash.trans hclose)))

theorem finish_of_items (a : Ast) {items : List Ast} (hne : items ≠ []) (start stop : Nat)
    (names : List (Text × Span)) :
    ReadState.finish ⟨⟨[], start, a :: items, start⟩, [], names⟩ stop =
      .ok (.concat ⟨start, stop⟩ (items.reverse ++ [a])) := by
  obtain ⟨b, items, rfl⟩ := List.exists_cons_of_ne_nil hne
  rw [← List.reverse_cons]
  rfl

theorem tooDeep?_chars {chars : List Ast} (hchars : List.Forall₂ Ast.IsChar name chars) (stop : Nat) :
    Ast.tooDeep? nestLimit
      (.concat ⟨0, stop + 1⟩ (startGroup :: chars ++ [.anchor ⟨stop, stop + 1⟩ .lineEnd])) = none := by
  refine anyTooDeep?_eq_none ?_
  intro a ha
  rcases List.mem_append.mp ha with ha | ha
  · rcases List.mem_cons.mp ha with rfl | ha
    · rfl
    · obtain ⟨_, _, _, rfl⟩ := exists_left_of_mem hchars ha
      rfl
  · rw [List.mem_singleton.mp ha]
    rfl

/-- The pattern is read as a component's start, the characters of the name, and the end. -/
theorem ofText_selfPattern (name : Text) :
    ∃ chars stop, List.Forall₂ Ast.IsChar name chars ∧ Ast.ofText (Rule.selfPattern name) =
      .ok (.concat ⟨0, stop + 1⟩ (startGroup :: chars ++ [.anchor ⟨stop, stop + 1⟩ .lineEnd])) := by
  obtain ⟨chars, stop, hchars, hname⟩ := reads_escape ⟨⟨[], 0, [startGroup], 0⟩, [], []⟩ 7 name
  refine ⟨chars, stop, hchars, ?_⟩
  have hend : Reads ⟨⟨[], 0, chars.reverse ++ [startGroup], 0⟩, [], []⟩ stop ['$']
      ⟨⟨[], 0, .anchor ⟨stop, stop + 1⟩ .lineEnd :: (chars.reverse ++ [startGroup]), 0⟩, [], []⟩ (stop + 1) :=
    .construct fun _ => rfl
  have hread : Reads ⟨.begin 0, [], []⟩ 0 (Rule.selfPattern name)
      ⟨⟨[], 0, .anchor ⟨stop, stop + 1⟩ .lineEnd :: (chars.reverse ++ [startGroup]), 0⟩, [], []⟩ (stop + 1) :=
    (reads_startGroup.trans hname).trans hend
  have hreverse : (chars.reverse ++ [startGroup]).reverse = startGroup :: chars := by simp
  rw [Ast.ofText, Cursor.ofText, hread.finish, finish_of_items _ (by simp), hreverse]
  simp only [tooDeep?_chars hchars]

/-! ## Meaning -/

/-- The expression of the paths whose last component is the name. -/
def selfExpr (name : Text) : Expr Atom :=
  .seq [.alt [.run [.look .textStart], .run [.char '/']], .run (name.map .char ++ [.look .textEnd])]

theorem foldr_cons_chars (t : Text) (atoms : List Atom) :
    ((t.map fun c => run [Atom.char c]) ++ [run atoms]).foldr cons [] = [run (t.map Atom.char ++ atoms)] := by
  induction t with
  | nil => rfl
  | cons c t ih =>
      rw [List.map_cons, List.cons_append, List.foldr_cons, ih]
      rfl

/-- The pattern of a last component is no syntax error, whatever the name is. -/
theorem parse_selfPattern (name : Text) : parse (Rule.selfPattern name) = .ok (selfExpr name) := by
  obtain ⟨chars, stop, hchars, htree⟩ := ofText_selfPattern name
  have hname : List.Forall₂ (fun a e => Ast.elaborate {} a = .ok (e, {})) chars
      (name.map fun c => .run [.char c]) :=
    List.forall₂_map_right_iff.mpr (hchars.flip.imp fun _ _ => Ast.IsChar.elaborate)
  have hend : List.Forall₂ (fun a e => Ast.elaborate {} a = .ok (e, {}))
      [.anchor ⟨stop, stop + 1⟩ .lineEnd] [.run [.look .textEnd]] := .cons rfl .nil
  have hall : List.Forall₂ (fun a e => Ast.elaborate {} a = .ok (e, {}))
      (startGroup :: chars ++ [.anchor ⟨stop, stop + 1⟩ .lineEnd])
      (.alt [.run [.look .textStart], .run [.char '/']] ::
        ((name.map fun c => .run [.char c]) ++ [.run [.look .textEnd]])) :=
    .cons rfl (List.rel_append hname hend)
  have hconcat : concat (.alt [.run [.look .textStart], .run [.char '/']] ::
      ((name.map fun c => .run [.char c]) ++ [.run [.look .textEnd]])) = selfExpr name := by
    rw [concat, List.foldr_cons, foldr_cons_chars]
    rfl
  rw [parse, htree]
  simp only [elaborate_concat _ hall, hconcat]

/-- It matches up to the end, from the start or from a slash. -/
theorem matchesAt_selfExpr {i j : Nat} : (selfExpr name).MatchesAt path i j ↔
    j = path.length ∧ (i = 0 ∧ path = name ∨ path.drop i = '/' :: name) := by
  have hstart : ∀ k, (alt [.run [.look .textStart], .run [.char '/']]).MatchesAt path i k ↔
      i = 0 ∧ k = 0 ∨ k = i + 1 ∧ path[i]? = some '/' := by
    intro k
    rw [matchesAt_alt, List.exists_mem_cons_iff, matchesAt_textStart]
    simp only [List.mem_singleton, exists_eq_left, matchesAt_run_char]
  simp only [selfExpr, matchesAt_seq_cons, matchesAt_seq_nil, hstart, matchesAt_chars_textEnd, exists_eq_right']
  constructor
  · rintro ⟨k, ⟨rfl, rfl⟩ | ⟨rfl, hslash⟩, hj, _, hdrop⟩
    · exact ⟨hj, .inl ⟨rfl, hdrop⟩⟩
    · obtain ⟨hi, hget⟩ := List.getElem?_eq_some_iff.mp hslash
      exact ⟨hj, .inr (by rw [List.drop_eq_getElem_cons hi, hget, hdrop])⟩
  · rintro ⟨rfl, ⟨rfl, hpath⟩ | hdrop⟩
    · exact ⟨0, .inl ⟨rfl, rfl⟩, rfl, Nat.zero_le _, hpath⟩
    · have hslash : path[i]? = some '/' := by rw [← List.head?_drop, hdrop, List.head?_cons]
      have hi : i < path.length := (List.getElem?_eq_some_iff.mp hslash).1
      exact ⟨i + 1, .inr ⟨rfl, hslash⟩, rfl, hi, by rw [← List.tail_drop, hdrop, List.tail_cons]⟩

theorem occurs_selfExpr_iff : (selfExpr name).Occurs path ↔ path = name ∨ '/' :: name <:+ path := by
  simp only [Occurs, matchesAt_selfExpr]
  constructor
  · rintro ⟨i, _, _, -, ⟨-, hname⟩ | hname⟩
    · exact .inl hname
    · exact .inr (hname ▸ List.drop_suffix i path)
  · rintro (hname | ⟨before, rfl⟩)
    · exact ⟨0, _, Nat.zero_le _, rfl, .inl ⟨rfl, hname⟩⟩
    · exact ⟨before.length, _, by simp, rfl, .inr List.drop_left⟩

/-! ## Size -/

theorem size_run_append (d : Direction) (atoms more : List Atom) :
    (run (atoms ++ more)).size d = (run atoms).size d + (run more).size d := by
  rw [size, size, size, List.map_append]
  exact List.sum_append

theorem size_selfExpr (d : Direction) : (selfExpr name).size d = stateSize * Utf8.size name + 168 := by
  have hstart : (alt [.run [.look .textStart], .run [.char '/']]).size d = 136 := by cases d <;> rfl
  have hname : (run (name.map .char ++ [.look .textEnd])).size d = stateSize * Utf8.size name + stateSize := by
    rw [size_run_append, ← plain, size_plain]
    rfl
  rw [selfExpr, size, size.sizeOfAll, size.sizeOfAll, size.sizeOfAll, hstart, hname, stateSize]
  omega

theorem anchored_backward_selfExpr : (selfExpr name).anchored .backward = true := by
  have hname : (run (name.map .char ++ [.look .textEnd])).anchored .backward = true := by
    simp [anchored, Atom.consumes]
  have hseq : (selfExpr name).anchored .backward =
      ((run (name.map .char ++ [.look .textEnd])).anchored .backward || (onlyEmpty _ && _)) := rfl
  rw [hseq, hname, Bool.true_or]

/-- It is small enough for names of so many bytes. -/
theorem fits_selfExpr_iff : (selfExpr name).fits = true ↔ Utf8.size name ≤ 327668 := by
  have hforward : (selfExpr name).automatonSize .forward =
      stateSize * Utf8.size name + 168 + searchOverhead .forward := by
    rw [automatonSize_of_not_anchored rfl, size_selfExpr]
  have hbackward : (selfExpr name).automatonSize .backward =
      stateSize + (stateSize * Utf8.size name + 168) + stateSize := by
    rw [automatonSize, anchored_backward_selfExpr, size_selfExpr]
    rfl
  have hlimit : (selfExpr name).fits = true ↔ ∀ d, (selfExpr name).automatonSize d ≤ sizeLimit := withinLimit_iff
  rw [hlimit, forall_direction_iff, hforward, hbackward, stateSize, searchOverhead, sizeLimit]
  omega

end MarkerAudit.Pattern
