import MarkerAudit.Pattern.Expr

/-!
# Sets of positions

A set of positions in a text is a number whose bit `i` tells whether position `i` belongs to it, so that one
step of a match moves a whole set at once.
-/

namespace MarkerAudit.Pattern

/-- A set of positions: bit `i` is set when `i` is a member. -/
abbrev Positions := Nat

namespace Positions

/-- The positions whose flag is set. -/
def ofFlags (flags : List Bool) : Positions :=
  flags.foldr (fun b s => 2 * s + b.toNat) 0

/-- The positions from 0 to `n`. -/
def upTo (n : Nat) : Positions := (1 <<< (n + 1)) - 1

end Positions

/-- An atom read over one text: where it applies, and whether it moves on by one character. -/
structure Move where
  advances : Bool
  origins : Positions
deriving DecidableEq, Repr, Inhabited

/-- The positions reached from `s`. -/
def Move.apply (m : Move) (s : Positions) : Positions :=
  let t := s &&& m.origins
  if m.advances then t <<< 1 else t

/-- The characters before and behind every position of a text, in order. -/
def neighbours (text : Text) : List (Option Char × Option Char) :=
  (none :: text.map some).zip (text.map some ++ [none])

/-- The atom read over a text. -/
def Atom.move (text : Text) : Atom → Move
  | .char c => ⟨true, .ofFlags (text.map (· == c))⟩
  | .set s => ⟨true, .ofFlags (text.map s.contains)⟩
  | .look l => ⟨false, .ofFlags ((neighbours text).map fun (before, behind) => l.holds before behind)⟩

/-- `n` steps one after another, which end early once no position is left. -/
def iterate (step : Positions → Positions) : (n : Nat) → Positions → Positions
  | 0, s => s
  | n + 1, s => if s = 0 then 0 else iterate step n (step s)

/-- The positions reached by at most `n` steps from `frontier`, together with `seen`. A round goes on only
from positions that are new. -/
def spread (step : Positions → Positions) : (n : Nat) → (frontier seen : Positions) → Positions
  | 0, _, seen => seen
  | n + 1, frontier, seen =>
    let reached := step frontier
    let fresh := (reached ||| seen) ^^^ seen
    if fresh = 0 then seen else spread step n fresh (seen ||| fresh)

/-- Where matches end that begin at a position of `s`, in a text of `length` characters. A repetition without
limit needs no more rounds than there are positions. -/
def Expr.ends (length : Nat) : Expr Move → Positions → Positions
  | .empty, s => s
  | .run moves, s => moves.foldl (fun s m => m.apply s) s
  | .capture body, s => body.ends length s
  | .repetition least most _ body, s =>
    let s := iterate (fun s => body.ends length s) least s
    spread (fun s => body.ends length s) ((most.getD (least + length + 1)) - least) s s
  | .seq parts, s => endsInTurn length parts s
  | .alt branches, s => endsOfAny length branches s 0
where
  /-- Where matches of one part after another end. -/
  endsInTurn (length : Nat) : List (Expr Move) → Positions → Positions
    | [], s => s
    | e :: rest, s => endsInTurn length rest (e.ends length s)
  /-- Where matches of any branch end, together with the positions in `found`. -/
  endsOfAny (length : Nat) : List (Expr Move) → Positions → Positions → Positions
    | [], _, found => found
    | e :: rest, s, found => endsOfAny length rest s (found ||| e.ends length s)

/-- Whether the expression matches anywhere in the text. -/
def Expr.occursIn (e : Expr Atom) (text : Text) : Bool :=
  (e.map (Atom.move text)).ends text.length (.upTo text.length) ≠ 0

end MarkerAudit.Pattern
