import MarkerAudit.Pattern
import MarkerAudit.Proofs.Pattern.Search

/-!
# Counts of repetitions

The reader refuses a repetition that asks for more rounds than it allows, and nothing that happens to a tree afterwards
makes one. So every pattern that is no syntax error is found in a text just where it occurs there.
-/

namespace MarkerAudit.Pattern

/-! ## Trees -/

/-- No repetition of the tree asks for more rounds than it allows. -/
def Ast.Ordered : Ast → Prop
  | .repetition _ least most _ body => (∀ m, most = some m → least ≤ m) ∧ body.Ordered
  | .group _ _ body => body.Ordered
  | .alternation _ branches => AllOrdered branches
  | .concat _ items => AllOrdered items
  | _ => True
where
  /-- This holds of several trees. -/
  AllOrdered : List Ast → Prop
    | [] => True
    | a :: rest => a.Ordered ∧ AllOrdered rest

theorem Ast.allOrdered_iff {items : List Ast} : Ast.Ordered.AllOrdered items ↔ ∀ a ∈ items, a.Ordered := by
  induction items with
  | nil => simp [Ast.Ordered.AllOrdered]
  | cons a items ih => rw [Ast.Ordered.AllOrdered, ih, List.forall_mem_cons]

/-! ## Reading -/

/-- This holds of all trees on a level. -/
def Level.Ordered (l : Level) : Prop := (∀ a ∈ l.items, a.Ordered) ∧ ∀ a ∈ l.branches, a.Ordered

/-- This holds of everything that has been read. -/
def ReadState.Ordered (s : ReadState) : Prop := s.level.Ordered ∧ ∀ g ∈ s.enclosing, g.outer.Ordered

variable {a : Ast} {l : Level} {s s' : ReadState} {c c' : Cursor}

theorem Level.ordered_begin (pos : Nat) : (begin pos).Ordered := ⟨List.forall_mem_nil _, List.forall_mem_nil _⟩

theorem Level.Ordered.push (hl : l.Ordered) (ha : a.Ordered) : (l.push a).Ordered :=
  ⟨List.forall_mem_cons.mpr ⟨ha, hl.1⟩, hl.2⟩

theorem Level.Ordered.branch (hl : l.Ordered) (stop : Nat) : (l.branch stop).Ordered := by
  unfold Level.branch
  split
  · trivial
  · rename_i a hitems
    exact hl.1 a (by simp [hitems])
  · rename_i items _ _
    exact Ast.allOrdered_iff.mpr fun a ha => hl.1 a (List.mem_reverse.mp ha)

theorem Level.Ordered.nextBranch (hl : l.Ordered) (stop next : Nat) : (l.nextBranch stop next).Ordered :=
  ⟨List.forall_mem_nil _, List.forall_mem_cons.mpr ⟨hl.branch stop, hl.2⟩⟩

theorem Level.Ordered.close (hl : l.Ordered) (stop : Nat) : (l.close stop).Ordered := by
  unfold Level.close
  split
  · exact hl.branch stop
  · refine Ast.allOrdered_iff.mpr fun a ha => ?_
    rcases List.mem_cons.mp (List.mem_reverse.mp ha) with rfl | ha
    · exact hl.branch stop
    · exact hl.2 a ha

theorem ReadState.Ordered.push (hs : s.Ordered) (ha : a.Ordered) : (s.push a).Ordered := ⟨hs.1.push ha, hs.2⟩

theorem ordered_of_repeatLast {start least : Nat} {most : Option Nat} {greed : Greed} (hs : s.Ordered)
    (hroom : ∀ m, most = some m → least ≤ m) (h : s.repeatLast start least most greed c = .ok (s', c')) :
    s'.Ordered := by
  unfold ReadState.repeatLast at h
  split at h
  · cases h
  · cases h
  · cases h
  · rename_i a items _ _ hitems
    cases h
    have hall := hs.1.1
    rw [hitems, List.forall_mem_cons] at hall
    exact ⟨⟨List.forall_mem_cons.mpr ⟨⟨hroom, hall.1⟩, hall.2⟩, hs.1.2⟩, hs.2⟩

theorem ordered_of_readCounted (hs : s.Ordered) (h : readCounted s c = .ok (s', c')) : s'.Ordered := by
  simp only [readCounted] at h
  split at h
  · cases h
  · split at h
    · cases h
    · split at h
      · cases h
      · split at h
        · split at h
          · split at h
            · rename_i hle
              exact ordered_of_repeatLast hs (fun _ hm => Option.some.inj hm ▸ hle) h
            · cases h
          · exact ordered_of_repeatLast hs (by nofun) h
        · cases h

theorem ordered_of_readOpeningParen (hs : s.Ordered) (h : readOpeningParen s c = .ok (s', c')) : s'.Ordered := by
  have henter : ∀ {start : Nat} {kind : GroupKind} {blanks : Bool} {names : List (Text × Span)} {pos : Nat},
      (ReadState.mk (.begin pos) (⟨start, kind, s.level, blanks⟩ :: s.enclosing) names).Ordered :=
    ⟨Level.ordered_begin _, List.forall_mem_cons.mpr ⟨hs.1, hs.2⟩⟩
  simp only [readOpeningParen] at h
  split at h
  · cases h
  · cases h
    exact hs.push trivial
  · split at h
    · cases h
    · cases h
      exact henter
  · cases h
    exact henter

theorem ordered_of_readClosingParen (hs : s.Ordered) (h : readClosingParen s c = .ok (s', c')) : s'.Ordered := by
  unfold readClosingParen at h
  split at h
  · cases h
  · rename_i g enclosing hg
    cases h
    have hall := hs.2
    rw [hg, List.forall_mem_cons] at hall
    exact ⟨hall.1.push (hs.1.close _), hall.2⟩

theorem ordered_of_readClassBody {fuel : Nat} {o : OpenClass} {outer : List OpenClass}
    (h : readClassBody fuel o outer c = .ok (a, c')) : a.Ordered := by
  induction fuel generalizing o outer c with
  | zero => cases h
  | succ fuel ih =>
      simp only [readClassBody] at h
      split at h
      · cases h
      · split at h
        · exact ih h
        · split at h
          · cases h
          · exact ih h
      · split at h
        · cases h
          trivial
        · exact ih h
      · exact ih h
      · exact ih h
      · exact ih h
      · split at h
        · cases h
        · exact ih h

theorem ordered_of_readClass (h : readClass c = .ok (a, c')) : a.Ordered := by
  unfold readClass at h
  split at h
  · cases h
  · exact ordered_of_readClassBody h

theorem Primitive.ordered_toAst (p : Primitive) : p.toAst.Ordered := by
  cases p <;> trivial

/-- One construct leaves what has been read ordered. -/
theorem ordered_of_readConstruct {d : Char} (hs : s.Ordered) (h : readConstruct s d c = .ok (s', c')) : s'.Ordered := by
  unfold readConstruct at h
  split at h
  · exact ordered_of_readOpeningParen hs h
  split at h
  · exact ordered_of_readClosingParen hs h
  split at h
  · cases h
    exact ⟨hs.1.nextBranch _ _, hs.2⟩
  split at h
  · split at h
    · cases h
    · rename_i hclass
      cases h
      exact hs.push (ordered_of_readClass hclass)
  split at h
  · exact ordered_of_repeatLast hs (fun _ _ => Nat.zero_le _) h
  split at h
  · exact ordered_of_repeatLast hs (by nofun) h
  split at h
  · exact ordered_of_repeatLast hs (by nofun) h
  split at h
  · exact ordered_of_readCounted hs h
  split at h
  · cases h
  · cases h
    exact hs.push (Primitive.ordered_toAst _)

/-- So does a whole pattern. -/
theorem ordered_of_readAll {fuel : Nat} (hs : s.Ordered) (h : readAll fuel s c = .ok a) : a.Ordered := by
  have hfinish : ∀ {s : ReadState} {stop : Nat}, s.Ordered → s.finish stop = .ok a → a.Ordered := by
    intro s stop hs h
    unfold ReadState.finish at h
    split at h
    · cases h
    · cases h
      exact hs.1.close stop
  induction fuel generalizing s c with
  | zero => exact hfinish hs h
  | succ fuel ih =>
      simp only [readAll] at h
      split at h
      · exact hfinish hs h
      · split at h
        · cases h
        · rename_i hconstruct
          exact ih (ordered_of_readConstruct hs hconstruct) h

theorem Ast.ordered_of_ofText {source : Text} (h : Ast.ofText source = .ok a) : a.Ordered := by
  unfold Ast.ofText at h
  split at h
  · cases h
  · rename_i hread
    split at h
    · cases h
    · cases h
      exact ordered_of_readAll ⟨Level.ordered_begin 0, List.forall_mem_nil _⟩ hread

/-! ## Expressions -/

namespace Expr

open Ordered (AllOrdered)

variable {α : Type} {e : Expr α} {es : List (Expr α)}

theorem allOrdered_iff : AllOrdered es ↔ ∀ e ∈ es, e.Ordered := by
  induction es with
  | nil => simp [AllOrdered]
  | cons e es ih => rw [AllOrdered, ih, List.forall_mem_cons]

theorem ordered_ofSet (s : CharSet) : (ofSet s).Ordered := by
  unfold ofSet
  split <;> trivial

theorem Ordered.cons (he : e.Ordered) (hes : ∀ e ∈ es, e.Ordered) : ∀ e' ∈ Expr.cons e es, e'.Ordered := by
  unfold Expr.cons
  split
  · exact hes
  · exact List.forall_mem_cons.mpr ⟨trivial, (List.forall_mem_cons.mp hes).2⟩
  · exact List.forall_mem_cons.mpr ⟨he, hes⟩

theorem Ordered.concat (h : ∀ e ∈ es, e.Ordered) : (Expr.concat es).Ordered := by
  have hparts : ∀ e ∈ es.foldr Expr.cons [], e.Ordered := by
    induction es with
    | nil => exact List.forall_mem_nil _
    | cons e es ih =>
        rw [List.forall_mem_cons] at h
        exact h.1.cons (ih h.2)
  unfold Expr.concat
  split
  · trivial
  · rename_i e hes
    exact hparts e (hes ▸ List.mem_cons_self)
  · exact allOrdered_iff.mpr hparts

theorem Ordered.branches (h : e.Ordered) : ∀ b ∈ e.branches, b.Ordered := by
  unfold Expr.branches
  split
  · exact allOrdered_iff.mp h
  · exact List.forall_mem_singleton.mpr h

theorem Ordered.alternation {es : List (Expr Atom)} (h : ∀ e ∈ es, e.Ordered) : (Expr.alternation es).Ordered := by
  have hbranches : ∀ b ∈ es.flatMap Expr.branches, b.Ordered := by
    intro b hb
    obtain ⟨e, he, hb⟩ := List.mem_flatMap.mp hb
    exact (h e he).branches b hb
  unfold Expr.alternation
  split
  · rename_i e hes
    exact hbranches e (hes ▸ List.mem_cons_self)
  · split
    · exact ordered_ofSet _
    · exact allOrdered_iff.mpr hbranches

/-- Leaving out rounds that are always empty leaves out none that are asked for and not allowed. -/
theorem Ordered.repeated {e : Expr Atom} {least : Nat} {most : Option Nat} {greed : Greed} (h : e.Ordered)
    (hroom : ∀ m, most = some m → least ≤ m) : (e.repeated least most greed).Ordered := by
  have hfewer : ∀ m, (if e.onlyEmpty = true then some (min (most.getD 1) 1) else most) = some m →
      (if e.onlyEmpty = true then min least 1 else least) ≤ m := by
    intro m hm
    split at hm
    · rename_i hempty
      rw [if_pos hempty, ← Option.some.inj hm]
      cases most with
      | none => rw [Option.getD_none]; omega
      | some most =>
          have := hroom most rfl
          rw [Option.getD_some]
          omega
    · rename_i hempty
      rw [if_neg hempty]
      exact hroom m hm
  simp only [Expr.repeated]
  generalize (if e.onlyEmpty = true then some (min (most.getD 1) 1) else most) = most at hfewer ⊢
  generalize (if e.onlyEmpty = true then min least 1 else least) = least at hfewer ⊢
  split
  · trivial
  split
  · exact h
  · exact ⟨hfewer, h⟩

end Expr

/-! ## From trees to expressions -/

theorem Modes.ordered_char (m : Modes) (c : Char) : (m.char c).Ordered := by
  unfold Modes.char
  split
  · exact Expr.ordered_ofSet _
  · trivial

mutual
theorem Ast.Ordered.elaborate {m m' : Modes} {e : Expr Atom} :
    (a : Ast) → a.Ordered → a.elaborate m = .ok (e, m') → e.Ordered
  | .empty _, _, h => by
      cases h
      trivial
  | .flags _ _, _, h => by
      cases h
      trivial
  | .literal l, _, h => by
      unfold Ast.elaborate at h
      split at h
      · cases h
      · cases h
        exact m.ordered_char _
  | .dot _, _, h => by
      unfold Ast.elaborate at h
      split at h
      · cases h
        exact Expr.ordered_ofSet _
      · cases h
  | .anchor _ _, _, h => by
      cases h
      trivial
  | .letter _ _ _, _, h => by
      unfold Ast.elaborate at h
      split at h
      · cases h
      · cases h
        exact Expr.ordered_ofSet _
  | .property _ _ _, _, h => by
      unfold Ast.elaborate at h
      split at h
      · cases h
      · cases h
        exact Expr.ordered_ofSet _
  | .bracketed _ _ _, _, h => by
      unfold Ast.elaborate at h
      split at h
      · cases h
      · split at h
        · cases h
        · cases h
          exact Expr.ordered_ofSet _
  | .repetition _ _ _ _ body, ha, h => by
      unfold Ast.elaborate at h
      split at h
      · cases h
      · rename_i hbody
        cases h
        exact (Ast.Ordered.elaborate body ha.2 hbody).repeated ha.1
  | .group _ .capture body, ha, h => by
      unfold Ast.elaborate at h
      split at h
      · cases h
      · rename_i hbody
        have hordered := Ast.Ordered.elaborate body ha hbody
        cases h
        exact hordered
  | .group _ (.plain _) body, ha, h => by
      unfold Ast.elaborate at h
      split at h
      · cases h
      · rename_i hbody
        cases h
        exact Ast.Ordered.elaborate body ha hbody
  | .alternation _ branches, ha, h => by
      unfold Ast.elaborate at h
      split at h
      · cases h
      · rename_i hall
        cases h
        exact .alternation (Ast.Ordered.elaborateAll branches ha (List.forall_mem_nil _) hall)
  | .concat _ items, ha, h => by
      unfold Ast.elaborate at h
      split at h
      · cases h
      · rename_i hall
        cases h
        exact .concat (Ast.Ordered.elaborateAll items ha (List.forall_mem_nil _) hall)

theorem Ast.Ordered.elaborateAll {m m' : Modes} {done es : List (Expr Atom)} :
    (items : List Ast) → Ast.Ordered.AllOrdered items → (∀ e ∈ done, e.Ordered) →
    Ast.elaborate.elaborateAll m items done = .ok (es, m') → ∀ e ∈ es, e.Ordered
  | [], _, hdone, h => by
      cases h
      exact fun e he => hdone e (List.mem_reverse.mp he)
  | a :: items, ha, hdone, h => by
      unfold Ast.elaborate.elaborateAll at h
      split at h
      · cases h
      · rename_i hhead
        exact Ast.Ordered.elaborateAll items ha.2
          (List.forall_mem_cons.mpr ⟨Ast.Ordered.elaborate a ha.1 hhead, hdone⟩) h
end

/-! ## Patterns -/

variable {source text : Text}

theorem ordered_of_parse {e : Expr Atom} (h : parse source = .ok e) : e.Ordered := by
  unfold parse at h
  split at h
  · cases h
  · rename_i a htree
    split at h
    · cases h
    · rename_i helaborate
      cases h
      exact Ast.Ordered.elaborate a (Ast.ordered_of_ofText htree) helaborate

/-- A pattern that is accepted matches a text just where its expression occurs in it. -/
theorem isMatch_iff_occurs {p : Pattern} (h : Pattern.ofText source = .ok p) :
    p.isMatch text = true ↔ ∃ e, parse source = .ok e ∧ e.Occurs text := by
  unfold Pattern.ofText at h
  split at h
  · cases h
  · rename_i e hparse
    split at h
    · cases h
      simp [isMatch, Expr.occursIn_iff (ordered_of_parse hparse), hparse]
    · cases h

end MarkerAudit.Pattern
