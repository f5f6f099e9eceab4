import MarkerAudit.Proofs.Pattern.Alternation
import MarkerAudit.Report

/-!
# The pattern of a written line

The pattern that written lines are split by is never a syntax error. It means a line's start, anything, a number between
colons, at most one blank, a marker, and anything up to the line's end.
-/

namespace MarkerAudit.Pattern

/-! ## Names of groups -/

theorem isNameChar_of_isAlpha {c : Char} (h : c.isAlpha = true) (first : Bool) : isNameChar first c = true := by
  cases first <;> simp [isNameChar, Char.isAlphanum, h]

theorem isNameChar_of_all {name : Text} (h : name.all Char.isAlpha = true) :
    ∀ c ∈ name, c ≠ '>' ∧ ∀ first, isNameChar first c = true := by
  intro c hc
  have hc := List.all_eq_true.mp h c hc
  refine ⟨?_, isNameChar_of_isAlpha hc⟩
  rintro rfl
  exact absurd hc (by decide)

/-! ## Reading -/

/-- The trees in the group of the head. -/
def headItems : List Ast :=
  [.repetition ⟨10, 13⟩ 0 none .lazy (.dot ⟨10, 11⟩), .literal { span := ⟨13, 14⟩, char := ':' },
    .repetition ⟨14, 17⟩ 1 none .greedy (.letter ⟨14, 16⟩ false .digit), .literal { span := ⟨17, 18⟩, char := ':' }]

/-- The trees of the pattern whose markers are read as `group` up to position `mid`. -/
def lineItems (group : Ast) (mid : Nat) : List Ast :=
  [.anchor ⟨0, 1⟩ .lineStart, .group ⟨1, 19⟩ .capture (.concat ⟨10, 18⟩ headItems),
    .repetition ⟨19, 22⟩ 0 (some 1) .greedy (.letter ⟨19, 21⟩ false .space),
    .group ⟨22, mid + 3⟩ .capture
      (.concat ⟨31, mid + 2⟩ [group, .repetition ⟨mid, mid + 2⟩ 0 none .greedy (.dot ⟨mid, mid + 1⟩)]),
    .anchor ⟨mid + 3, mid + 4⟩ .lineEnd]

theorem reads_headItems (s : ReadState) :
    Reads s 10 ['.', '*', '?', ':', '\\', 'd', '+', ':'] (s.pushAll headItems) 18 := by
  have hdot : Reads s 10 ['.'] (s.push (.dot ⟨10, 11⟩)) 11 := .construct fun _ => rfl
  have hstar : Reads (s.push (.dot ⟨10, 11⟩)) 11 ['*', '?'] (s.pushAll (headItems.take 1)) 13 :=
    .construct fun _ => rfl
  have hcolon : Reads (s.pushAll (headItems.take 1)) 13 [':'] (s.pushAll (headItems.take 2)) 14 :=
    .construct fun _ => rfl
  have hdigit : Reads (s.pushAll (headItems.take 2)) 14 ['\\', 'd']
      ((s.pushAll (headItems.take 2)).push (.letter ⟨14, 16⟩ false .digit)) 16 := .construct fun _ => rfl
  have hlast : Reads (s.pushAll (headItems.take 3)) 17 [':'] (s.pushAll headItems) 18 := .construct fun _ => rfl
  have hplus : Reads ((s.pushAll (headItems.take 2)).push (.letter ⟨14, 16⟩ false .digit)) 16 ['+', ':']
      (s.pushAll headItems) 18 := .step [] (fun _ => rfl) hlast
  exact hdot.trans (hstar.trans (hcolon.trans (hdigit.trans hplus)))

/-- The state behind the opening of the group that the markers stand in. -/
def tailState : ReadState where
  level := .begin 31
  enclosing := [⟨22, .capture, ⟨[], 0, ((lineItems (.empty ⟨0, 0⟩) 0).take 3).reverse, 0⟩, false⟩]
  names := [("tail".toList, ⟨26, 30⟩), ("head".toList, ⟨5, 9⟩)]

theorem reads_lineHead : Reads ⟨.begin 0, [], []⟩ 0 "^(?P<head>.*?:\\d+:)\\s?(?P<tail>".toList tailState 31 := by
  have hstart : Reads ⟨.begin 0, [], []⟩ 0 ['^'] ⟨⟨[], 0, [.anchor ⟨0, 1⟩ .lineStart], 0⟩, [], []⟩ 1 :=
    .construct fun _ => rfl
  have hopen := reads_namedGroupOpening ⟨⟨[], 0, [.anchor ⟨0, 1⟩ .lineStart], 0⟩, [], []⟩ 1
    (List.cons_ne_nil 'h' ['e', 'a', 'd']) (isNameChar_of_all (by decide)) (by simp)
  have hitems := reads_headItems
    (ReadState.enterNamed ⟨⟨[], 0, [.anchor ⟨0, 1⟩ .lineStart], 0⟩, [], []⟩ 1 ['h', 'e', 'a', 'd'])
  have hclose := reads_groupClosing ⟨[], 10, headItems.reverse, 10⟩
    (g := ⟨1, .capture, ⟨[], 0, [.anchor ⟨0, 1⟩ .lineStart], 0⟩, false⟩) rfl [] [("head".toList, ⟨5, 9⟩)] 18
  have hblank : Reads ⟨⟨[], 0, ((lineItems (.empty ⟨0, 0⟩) 0).take 2).reverse, 0⟩, [], [("head".toList, ⟨5, 9⟩)]⟩ 19
      ['\\', 's'] ⟨⟨[], 0, .letter ⟨19, 21⟩ false .space :: ((lineItems (.empty ⟨0, 0⟩) 0).take 2).reverse, 0⟩, [],
        [("head".toList, ⟨5, 9⟩)]⟩ 21 := .construct fun _ => rfl
  have htail := reads_namedGroupOpening
    ⟨⟨[], 0, ((lineItems (.empty ⟨0, 0⟩) 0).take 3).reverse, 0⟩, [], [("head".toList, ⟨5, 9⟩)]⟩ 22
    (List.cons_ne_nil 't' ['a', 'i', 'l']) (isNameChar_of_all (by decide)) (by decide)
  have hoption : Reads
      ⟨⟨[], 0, .letter ⟨19, 21⟩ false .space :: ((lineItems (.empty ⟨0, 0⟩) 0).take 2).reverse, 0⟩, [],
        [("head".toList, ⟨5, 9⟩)]⟩ 21 ('?' :: '(' :: (['?', 'P', '<'] ++ ['t', 'a', 'i', 'l'] ++ ['>'])) tailState 31 :=
    .step [] (fun _ => rfl) htail
  exact hstart.trans (hopen.trans (hitems.trans (hclose.trans (hblank.trans hoption))))

/-- The pattern is read as its items, whatever the markers are. -/
theorem reads_linePattern (ms : MarkerSet) :
    ∃ span body mid names, body.SpellsAny ms.markers ∧
      Reads ⟨.begin 0, [], []⟩ 0 (Formatter.linePattern ms)
        ⟨⟨[], 0, (lineItems (.group span (.plain []) body) mid).reverse, 0⟩, [], names⟩ (mid + 4) := by
  obtain ⟨span, body, mid, hbody, hmarkers⟩ := reads_alternation tailState 31 ms.nonempty
  refine ⟨span, body, mid, tailState.names, hbody, ?_⟩
  have hdot : Reads (tailState.push (.group span (.plain []) body)) mid ['.']
      ((tailState.push (.group span (.plain []) body)).push (.dot ⟨mid, mid + 1⟩)) (mid + 1) := .construct fun _ => rfl
  have hclose := reads_groupClosing
    ⟨[], 31, [.repetition ⟨mid, mid + 2⟩ 0 none .greedy (.dot ⟨mid, mid + 1⟩), .group span (.plain []) body], 31⟩
    (g := ⟨22, .capture, ⟨[], 0, ((lineItems (.empty ⟨0, 0⟩) 0).take 3).reverse, 0⟩, false⟩) rfl [] tailState.names
    (mid + 2)
  have hstar : Reads ((tailState.push (.group span (.plain []) body)).push (.dot ⟨mid, mid + 1⟩)) (mid + 1) ['*', ')']
      ⟨⟨[], 0, ((lineItems (.group span (.plain []) body) mid).take 4).reverse, 0⟩, [], tailState.names⟩ (mid + 3) :=
    .step [] (fun _ => rfl) hclose
  have hend : Reads
      ⟨⟨[], 0, ((lineItems (.group span (.plain []) body) mid).take 4).reverse, 0⟩, [], tailState.names⟩ (mid + 3) ['$']
      ⟨⟨[], 0, (lineItems (.group span (.plain []) body) mid).reverse, 0⟩, [], tailState.names⟩ (mid + 4) :=
    .construct fun _ => rfl
  exact (reads_lineHead.trans hmarkers).trans (hdot.trans (hstar.trans hend))

/-! ## Meaning -/

/-- Anything but a line end, any number of times. -/
def dots (greed : Greed) : Expr Atom := .repetition 0 none greed (.run [.set (Modes.dot {})])

theorem contains_dot {c : Char} : (Modes.dot {}).contains c = true ↔ c ≠ '\n' := by
  have hmax : c.toNat ≤ CharSet.maxCode := by
    rcases Utf8.toNat_valid c with h | h
    · exact Nat.le_trans (Nat.le_of_lt h) (by decide)
    · exact Nat.le_of_lt_succ h.2
  rw [CharSet.contains, CharSet.hasCode_iff, ne_eq, ← Char.toNat_inj, show ('\n').toNat = 10 from rfl]
  simp only [Modes.dot, Bool.false_eq_true, if_false, CharSet.covers_cons]
  simp only [CharSet.Covers, List.not_mem_nil, false_and, exists_false, or_false]
  omega

theorem matchesAt_dots {greed : Greed} {text : Text} {i j : Nat} :
    (dots greed).MatchesAt text i j ↔ ∃ t, t <+: text.drop i ∧ j = i + t.length ∧ '\n' ∉ t := by
  have hall : ∀ t : Text, (∀ c ∈ t, (Modes.dot {}).contains c = true) ↔ '\n' ∉ t := by
    intro t
    simp only [contains_dot]
    exact ⟨fun h hm => h _ hm rfl, fun h c hm he => h (he ▸ hm)⟩
  rw [dots, Expr.matchesAt_star]
  simp only [hall]

/-- What the pattern means, for the expression of the markers. -/
def lineExpr (e : Expr Atom) : Expr Atom :=
  .seq [.run [.look .textStart],
    .capture (.seq [dots .lazy, .run [.char ':'],
      .repetition 1 none .greedy (.run [.set Unicode.Category.decimalNumber]), .run [.char ':']]),
    .repetition 0 (some 1) .greedy (.run [.set Unicode.Property.whiteSpace]),
    .capture (.seq [e, dots .greedy]),
    .run [.look .textEnd]]

theorem flatMap_branches_plain (markers : List Text) :
    (markers.map Expr.plain).flatMap Expr.branches = markers.map Expr.plain := by
  rw [List.flatMap_map]
  exact (List.map_eq_flatMap ..).symm

theorem alternation_ne_empty (markers : List Text) : Expr.alternation (markers.map .plain) ≠ .empty := by
  unfold Expr.alternation
  rw [flatMap_branches_plain]
  split
  · rename_i e he
    obtain ⟨t, _, rfl⟩ := List.mem_map.mp (he ▸ List.mem_cons_self : e ∈ markers.map Expr.plain)
    simp [Expr.plain]
  · split
    · unfold Expr.ofSet
      split <;> simp
    · simp

/-- The group of the tail holds the expression of the markers as it is. -/
theorem concat_tail {e : Expr Atom} (he : e ≠ .empty) : Expr.concat [e, dots .greedy] = .seq [e, dots .greedy] := by
  cases e with
  | empty => exact absurd rfl he
  | _ => rfl

theorem elaborate_lineItems {markers : List Text} {span : Span} {body : Ast} (hnil : [] ∉ markers)
    (hbody : body.SpellsAny markers) (mid : Nat) :
    Ast.elaborate {} (.concat ⟨0, mid + 4⟩ (lineItems (.group span (.plain []) body) mid)) =
      .ok (lineExpr (.alternation (markers.map .plain)), {}) := by
  have hhead : Ast.elaborate {} (.group ⟨1, 19⟩ .capture (.concat ⟨10, 18⟩ headItems)) =
      .ok (.capture (.seq [dots .lazy, .run [.char ':'],
        .repetition 1 none .greedy (.run [.set Unicode.Category.decimalNumber]), .run [.char ':']]), {}) := rfl
  have hgroup := elaborate_plainGroup span (hbody.elaborate hnil)
  have hdots : Ast.elaborate {} (.repetition ⟨mid, mid + 2⟩ 0 none .greedy (.dot ⟨mid, mid + 1⟩)) =
      .ok (dots .greedy, {}) := rfl
  have htail := elaborate_capture ⟨22, mid + 3⟩
    (elaborate_concat ⟨31, mid + 2⟩ (.cons hgroup (.cons hdots .nil)))
  rw [concat_tail (alternation_ne_empty markers)] at htail
  have hall : List.Forall₂ (fun a e => Ast.elaborate {} a = .ok (e, {}))
      (lineItems (.group span (.plain []) body) mid)
      [.run [.look .textStart], .capture (.seq [dots .lazy, .run [.char ':'],
          .repetition 1 none .greedy (.run [.set Unicode.Category.decimalNumber]), .run [.char ':']]),
        .repetition 0 (some 1) .greedy (.run [.set Unicode.Property.whiteSpace]),
        .capture (.seq [.alternation (markers.map .plain), dots .greedy]), .run [.look .textEnd]] :=
    .cons rfl (.cons hhead (.cons rfl (.cons htail (.cons rfl .nil))))
  exact elaborate_concat _ hall

theorem tooDeep?_lineItems {markers : List Text} {span : Span} {body : Ast} (hbody : body.SpellsAny markers)
    (mid : Nat) :
    Ast.tooDeep? nestLimit (.concat ⟨0, mid + 4⟩ (lineItems (.group span (.plain []) body) mid)) = none := by
  have hdeep : body.tooDeep? 246 = none := hbody.tooDeep?_eq_none 244
  have hitems : Ast.tooDeep?.anyTooDeep? 247
      [.group span (.plain []) body, .repetition ⟨mid, mid + 2⟩ 0 none .greedy (.dot ⟨mid, mid + 1⟩)] = none := by
    refine anyTooDeep?_eq_none ?_
    simp only [List.forall_mem_cons]
    exact ⟨hdeep, rfl, List.forall_mem_nil _⟩
  refine anyTooDeep?_eq_none ?_
  simp only [lineItems, List.forall_mem_cons]
  exact ⟨rfl, rfl, rfl, hitems, rfl, List.forall_mem_nil _⟩

theorem finish_lineItems (group : Ast) (mid : Nat) (names : List (Text × Span)) :
    ReadState.finish ⟨⟨[], 0, (lineItems group mid).reverse, 0⟩, [], names⟩ (mid + 4) =
      .ok (.concat ⟨0, mid + 4⟩ (lineItems group mid)) := rfl

theorem ofText_linePattern (ms : MarkerSet) :
    ∃ span body mid, body.SpellsAny ms.markers ∧ Ast.ofText (Formatter.linePattern ms) =
      .ok (.concat ⟨0, mid + 4⟩ (lineItems (.group span (.plain []) body) mid)) := by
  obtain ⟨span, body, mid, names, hbody, hread⟩ := reads_linePattern ms
  refine ⟨span, body, mid, hbody, ?_⟩
  rw [Ast.ofText, Cursor.ofText, hread.finish, finish_lineItems]
  simp only [tooDeep?_lineItems hbody mid]

/-- The pattern of a written line is no syntax error, whatever the markers are. -/
theorem parse_linePattern (ms : MarkerSet) :
    parse (Formatter.linePattern ms) = .ok (lineExpr (.alternation (ms.markers.map .plain))) := by
  obtain ⟨span, body, mid, hbody, htree⟩ := ofText_linePattern ms
  rw [parse, htree]
  simp only [elaborate_lineItems ms.noEmptyMarker hbody mid]

end MarkerAudit.Pattern
