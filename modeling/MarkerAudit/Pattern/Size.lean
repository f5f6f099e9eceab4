import MarkerAudit.Pattern.Expr
import MarkerAudit.Pattern.ByteRange

/-!
# The size of a compiled pattern

A pattern is compiled to an automaton over bytes in which every repetition is written out, and patterns whose
automaton takes too much memory are refused. The size follows from the expression: every state takes 32
bytes, a state that branches over bytes 8 more for each range, and one that branches freely 4 more for each
way on. The limit holds for the automaton that reads forwards and for the one that reads backwards.
-/

namespace MarkerAudit.Pattern

/-- The greatest size that is accepted, in bytes. -/
def sizeLimit : Nat := 10485760

/-- The direction in which an automaton reads a text. -/
inductive Direction
  | forward
  | backward
deriving DecidableEq, Repr

/-- The size of a state without ways of its own. -/
def stateSize : Nat := 32

/-- The size of a state with `n` byte ranges. -/
def sparseSize (n : Nat) : Nat := stateSize + 8 * n

/-- The size of a state with `n` free ways on. -/
def unionSize (n : Nat) : Nat := stateSize + 4 * n

/-! ## Sets -/

/-- The ways on from a state: byte ranges, each with the number of the state behind it. -/
abbrev Ways := List (ByteRange × Nat)

/-- States that share their common tails, with their total size. -/
structure SharedTails where
  states : List (Ways × Nat)
  size : Nat

/-- The number of the state with the given ways, which is added if there is none. Number 0 is the end. -/
def SharedTails.intern (t : SharedTails) (ways : Ways) : Nat × SharedTails :=
  match t.states.find? fun (w, _) => w = ways with
  | some (_, n) => (n, t)
  | none =>
    let n := t.states.length + 1
    (n, ⟨(ways, n) :: t.states, t.size + sparseSize ways.length⟩)

/-- The states that the last sequence runs through, with its byte range in each, and the ways that are
already complete. -/
abbrev OpenPath := List (Ways × ByteRange)

/-- Completes the states of a path; the result is the number of the first. -/
def SharedTails.close (t : SharedTails) : OpenPath → Nat × SharedTails
  | [] => (0, t)
  | (ways, r) :: path =>
    let (n, t) := t.close path
    t.intern (ways ++ [(r, n)])

/-- Adds a sequence: the path is completed from where the sequence leaves it. -/
def SharedTails.push (t : SharedTails) : OpenPath → List ByteRange → OpenPath × SharedTails
  | [], seq => (seq.map fun r => ([], r), t)
  | path, [] => (path, t)
  | (ways, r) :: path, q :: seq =>
    if r = q then
      let (path, t) := t.push path seq
      ((ways, r) :: path, t)
    else
      let (n, t) := t.close path
      ((ways ++ [(r, n)], q) :: seq.map (fun r => ([], r)), t)

/-- The size of the states that read a member of the set forwards. -/
def forwardSetSize (s : CharSet) : Nat :=
  let (path, t) := (sequencesOf s).foldl (fun (path, t) seq => SharedTails.push t path seq)
    (([] : OpenPath), (⟨[], stateSize⟩ : SharedTails))
  (t.close path).2.size

/-- How many ranges two sequences have in common at the start. -/
def commonStart : List ByteRange → List ByteRange → Nat
  | a :: s, b :: t => if a = b then commonStart s t + 1 else 0
  | _, _ => 0

/-- The size of the states that read a member of the set backwards: sequences share their starts only. -/
def backwardSetSize (s : CharSet) : Nat :=
  let seqs := sequencesOf s
  let (_, states) := seqs.foldl (fun (last, n) seq => (seq, n + (seq.length - commonStart last seq)))
    (([] : List ByteRange), 0)
  unionSize seqs.length + stateSize + stateSize * states

/-- The size of the states for an atom. -/
def Atom.size (d : Direction) : Atom → Nat
  | .char c => stateSize * c.utf8Size
  | .look _ => stateSize
  | .set s =>
    if s.isAscii then stateSize + sparseSize s.ranges.length
    else match d with
      | .forward => forwardSetSize s
      | .backward => backwardSetSize s

/-! ## Alternatives of plain texts

Alternatives that are all plain texts become a tree that shares their starts. Where a text ends, the texts
that come later begin anew, so that an earlier alternative is preferred to a later one. -/

/-- The ways on from one place of the tree, last first: each byte with the rests of the texts that go on
with it, last first. -/
abbrev Chunk := List (Nat × List (List Nat))

/-- Adds a text that goes on with `b` and then with `rest`. -/
def Chunk.push (c : Chunk) (b : Nat) (rest : List Nat) : Chunk :=
  if c.any (·.1 = b) then c.map fun (a, rests) => if a = b then (a, rest :: rests) else (a, rests)
  else (b, [rest]) :: c

/-- The chunks of one place, last first: a text that ends there closes a chunk. -/
def chunksOf (texts : List (List Nat)) : List Chunk :=
  texts.foldl (fun chunks t =>
    match t, chunks with
    | [], _ => [] :: chunks
    | b :: rest, c :: more => c.push b rest :: more
    | b :: rest, [] => [[(b, [rest])]]) [[]]

/-- The size of one place of the tree, and the places behind it. -/
def placeSize (texts : List (List Nat)) : Nat × List (List (List Nat)) :=
  let chunks := chunksOf texts
  let full := chunks.filter (!·.isEmpty)
  if full.isEmpty then (0, [])
  else
    let sparse := full.map fun c => if c.length = 1 then stateSize else sparseSize c.length
    (total sparse + unionSize (full.length + (chunks.length - 1)),
      full.flatMap fun c => c.map fun (_, rests) => rests.reverse)

/-- The size of a tree, level by level. -/
def treeSize : (fuel : Nat) → (places : List (List (List Nat))) → (size : Nat) → Nat
  | 0, _, size => size
  | fuel + 1, places, size =>
    if places.isEmpty then size
    else
      let level := places.map placeSize
      treeSize fuel (level.flatMap Prod.snd) (size + total (level.map Prod.fst))

/-- The bytes of an atom that is a certain character. -/
def Atom.bytes? : Atom → Option (List Nat)
  | .char c => some (encodeCode c.toNat)
  | _ => none

/-- The bytes of a plain text. -/
def plainBytes? : Expr Atom → Option (List Nat)
  | .run atoms => (atoms.mapM Atom.bytes?).map List.flatten
  | _ => none

/-- The size of the tree of plain texts. -/
def plainSize (d : Direction) (texts : List (List Nat)) : Nat :=
  let texts := if d = .backward then texts.map List.reverse else texts
  stateSize + treeSize (texts.foldl (fun n t => max n t.length) 0 + 1) [texts] 0

/-- The texts of alternatives that are all plain, if there are at least two. -/
def plainTexts? (branches : List (Expr Atom)) : Option (List (List Nat)) :=
  if branches.length < 2 then none else branches.mapM plainBytes?

/-! ## Expressions -/

namespace Expr

/-- Whether the expression has an empty match. -/
def nullable : Expr Atom → Bool
  | .empty => true
  | .run atoms => atoms.all fun a => !a.consumes
  | .capture body => body.nullable
  | .repetition least _ _ body => least = 0 || body.nullable
  | .seq parts => allNullable parts
  | .alt branches => anyNullable branches
where
  /-- Whether every part has an empty match. -/
  allNullable : List (Expr Atom) → Bool
    | [] => true
    | e :: rest => e.nullable && allNullable rest
  /-- Whether some branch has an empty match. -/
  anyNullable : List (Expr Atom) → Bool
    | [] => false
    | e :: rest => e.nullable || anyNullable rest

/-- The size of a repetition whose body takes `size`. -/
def repetitionSize (size : Nat) (nullable : Bool) : (least : Nat) → (most : Option Nat) → Nat
  | 0, some 1 => unionSize 2 + stateSize + size
  | 0, none => if nullable then size + 2 * unionSize 2 + stateSize else size + unionSize 2
  | least, none => least * size + unionSize 2
  | 0, some most => 2 * stateSize + most * (size + unionSize 2)
  | least, some most =>
    if least = most then least * size
    else least * size + stateSize + (most - least) * (size + unionSize 2)

/-- The size of the states for the expression. Only an automaton that reads forwards marks groups. -/
def size (d : Direction) : Expr Atom → Nat
  | .empty => stateSize
  | .run atoms => total (atoms.map (Atom.size d))
  | .capture body => (if d = .forward then 2 * stateSize else 0) + body.size d
  | .repetition least most _ body => repetitionSize (body.size d) body.nullable least most
  | .seq parts => sizeOfAll d parts 0
  | .alt branches =>
    match plainTexts? branches with
    | some texts => plainSize d texts
    | none => sizeOfAll d branches (unionSize branches.length + stateSize)
where
  /-- The sizes of several expressions and `total` together. -/
  sizeOfAll (d : Direction) : List (Expr Atom) → (total : Nat) → Nat
    | [], total => total
    | e :: rest, total => sizeOfAll d rest (total + e.size d)

/-- Whether every match begins at the start of the text, or ends at its end if `d` is backward: whether the
condition stands before anything that consumes. -/
def anchored (d : Direction) : Expr Atom → Bool
  | .empty => false
  | .run atoms =>
    let ordered := match d with
      | .forward => atoms
      | .backward => atoms.reverse
    (ordered.takeWhile fun a => !a.consumes).contains
      (.look (match d with | .forward => .textStart | .backward => .textEnd))
  | .capture body => body.anchored d
  | .repetition least _ _ body => least ≠ 0 && body.anchored d
  | .seq parts =>
    match d with
    | .forward => firstAnchored d parts
    | .backward => lastAnchored d parts false
  | .alt branches => allAnchored d branches
where
  /-- Whether a part is anchored and all before it have only empty matches. -/
  firstAnchored (d : Direction) : List (Expr Atom) → Bool
    | [] => false
    | e :: rest => e.anchored d || (e.onlyEmpty && firstAnchored d rest)
  /-- Whether a part is anchored and all behind it have only empty matches; `found` tells this of the parts
  before. -/
  lastAnchored (d : Direction) : List (Expr Atom) → (found : Bool) → Bool
    | [], found => found
    | e :: rest, found => lastAnchored d rest (e.anchored d || (e.onlyEmpty && found))
  /-- Whether every branch is anchored. -/
  allAnchored (d : Direction) : List (Expr Atom) → Bool
    | [] => true
    | e :: rest => e.anchored d && allAnchored d rest

/-- The size of what lets a match begin anywhere. -/
def prefixSize (anchored : Bool) : Nat :=
  if anchored then stateSize else unionSize 2 + stateSize + sparseSize 1

/-- The size of the whole automaton. -/
def automatonSize (d : Direction) (e : Expr Atom) : Nat :=
  prefixSize (e.anchored d) + (if d = .forward then 2 * stateSize else 0) + e.size d + stateSize

/-- The number of plain alternatives from which on no automaton is built. -/
def manyTexts : Nat := 3000

/-- Whether the automata of the expression stay within the limit. Very many plain alternatives are searched
for without an automaton. -/
def fits (e : Expr Atom) : Bool :=
  match e with
  | .alt branches =>
    (manyTexts ≤ branches.length && (plainTexts? branches).isSome) || withinLimit e
  | e => withinLimit e
where
  /-- Whether both automata stay within the limit. -/
  withinLimit (e : Expr Atom) : Bool :=
    e.automatonSize .forward ≤ sizeLimit && e.automatonSize .backward ≤ sizeLimit

end Expr
end MarkerAudit.Pattern
