import MarkerAudit.Pattern.Expr

/-!
# What expressions match

The stretches of a text that an expression matches, as a relation between the positions where they begin and
end. It says nothing about how a match is found.
-/

namespace MarkerAudit.Pattern

/-- The atom matches from position `i` to position `j` of the text. -/
def Atom.Matches (text : Text) (a : Atom) (i j : Nat) : Prop :=
  match a with
  | .char c => j = i + 1 ∧ text[i]? = some c
  | .set s => j = i + 1 ∧ ∃ c, text[i]? = some c ∧ s.contains c
  | .look l => j = i ∧ i ≤ text.length ∧ l.holds (if i = 0 then none else text[i - 1]?) text[i]?

/-- The expression matches from position `i` to position `j`, where `R` tells this for its atoms. -/
inductive Expr.Matches {α : Type} (R : α → Nat → Nat → Prop) : Expr α → Nat → Nat → Prop
  | empty (i : Nat) : Matches R .empty i i
  | runNil (i : Nat) : Matches R (.run []) i i
  | runCons {a : α} {atoms : List α} {i j k : Nat} :
      R a i j → Matches R (.run atoms) j k → Matches R (.run (a :: atoms)) i k
  | capture {body : Expr α} {i j : Nat} : Matches R body i j → Matches R (.capture body) i j
  | stop (most : Option Nat) (greed : Greed) (body : Expr α) (i : Nat) : Matches R (.repetition 0 most greed body) i i
  | round {least : Nat} {most : Option Nat} {greed : Greed} {body : Expr α} {i j k : Nat} :
      most ≠ some 0 → Matches R body i j →
      Matches R (.repetition (least - 1) (most.map (· - 1)) greed body) j k →
      Matches R (.repetition least most greed body) i k
  | seqNil (i : Nat) : Matches R (.seq []) i i
  | seqCons {e : Expr α} {parts : List (Expr α)} {i j k : Nat} :
      Matches R e i j → Matches R (.seq parts) j k → Matches R (.seq (e :: parts)) i k
  | alt {e : Expr α} {branches : List (Expr α)} {i j : Nat} :
      e ∈ branches → Matches R e i j → Matches R (.alt branches) i j

/-- The expression matches the characters from position `i` up to position `j` of the text. -/
def Expr.MatchesAt (text : Text) (e : Expr Atom) (i j : Nat) : Prop :=
  e.Matches (Atom.Matches text) i j

/-- The expression matches somewhere in the text. -/
def Expr.Occurs (text : Text) (e : Expr Atom) : Prop :=
  ∃ i j, i ≤ text.length ∧ e.MatchesAt text i j

end MarkerAudit.Pattern
