import MarkerAudit.Text

/-!
# Similar words

The similarity of two words counts the characters they share at nearly the same place, and how many of those
stand in another order. It is kept as a fraction, so that two similarities compare exactly.
-/

namespace MarkerAudit.Similarity

/-- A fraction. The denominator is positive. -/
structure Score where
  numerator : Nat
  denominator : Nat
deriving Repr

/-- Whether a score is less than or equal to another. -/
def Score.le (a b : Score) : Bool :=
  a.numerator * b.denominator ≤ b.numerator * a.denominator

/-- The characters of a word with whether each has found a partner. -/
abbrev Marked := List (Char × Bool)

/-- Marks the first unmarked `c` between positions `least` and `most`; `i` is the position of the first
character. -/
def mark? (c : Char) (least most : Nat) : (i : Nat) → Marked → Option Marked
  | _, [] => none
  | i, (d, taken) :: rest =>
    if least ≤ i && i ≤ most && c = d && !taken then some ((d, true) :: rest)
    else (mark? c least most (i + 1) rest).map ((d, taken) :: ·)

/-- Pairs the characters of a word, the first of which has position `i`, with those of another word that are
at most `range` places away. The result is the paired characters of the first word and the marked second. -/
def pair (range : Nat) : (i : Nat) → Text → Marked → Text × Marked
  | _, [], b => ([], b)
  | i, c :: rest, b =>
    match mark? c (i - range) (i + range) 0 b with
    | some b =>
      let (paired, b) := pair range (i + 1) rest b
      (c :: paired, b)
    | none => pair range (i + 1) rest b

/-- The similarity of two words. -/
def score (a b : Text) : Score :=
  match a, b with
  | [], [] => ⟨1, 1⟩
  | _, _ =>
    let (mine, marked) := pair (max a.length b.length / 2 - 1) 0 a (b.map fun c => (c, false))
    let theirs := (marked.filter Prod.snd).map Prod.fst
    let shared := mine.length
    let moved := ((mine.zip theirs).filter fun (c, d) => c ≠ d).length / 2
    if shared = 0 then ⟨0, 1⟩
    else
      ⟨shared * shared * b.length + shared * shared * a.length + (shared - moved) * a.length * b.length,
        3 * a.length * b.length * shared⟩

/-- The candidate most like a word, the last of several, if its similarity is above seven tenths. -/
def best? {α : Type} (word : Text) (name : α → Text) (candidates : List α) : Option α :=
  let scored := (candidates.map fun c => (score word (name c), c)).filter fun (s, _) => !s.le ⟨7, 10⟩
  (scored.foldl (fun best (s, c) =>
    match best with
    | none => some (s, c)
    | some (t, d) => if t.le s then some (s, c) else some (t, d)) none).map Prod.snd

end MarkerAudit.Similarity
