import MarkerAudit.Text

/-!
# Sets of characters

A set is a list of inclusive ranges of code points. Membership needs no order of the ranges; the
operations put their results into normal form: ascending ranges with a gap between neighbours.
-/

namespace MarkerAudit

/-- The code points from `lo` to `hi`, both included. -/
structure CodeRange where
  lo : Nat
  hi : Nat
deriving DecidableEq, Repr, Inhabited

/-- A set of characters as ranges of code points. -/
structure CharSet where
  ranges : List CodeRange
deriving DecidableEq, Repr, Inhabited

namespace CharSet

/-- The greatest code point. -/
def maxCode : Nat := 0x10FFFF

/-- Whether the set holds the code point `n`. -/
def hasCode (s : CharSet) (n : Nat) : Bool :=
  s.ranges.any fun r => r.lo ≤ n && n ≤ r.hi

/-- Whether the set holds the character `c`. -/
def contains (s : CharSet) (c : Char) : Bool :=
  s.hasCode c.toNat

/-- The set without members. -/
def empty : CharSet := ⟨[]⟩

/-- The set of all characters. -/
def all : CharSet := ⟨[⟨0, maxCode⟩]⟩

/-- The set of `c` alone. -/
def single (c : Char) : CharSet := ⟨[⟨c.toNat, c.toNat⟩]⟩

/-! ## Normal form -/

/-- Adds a range to ranges that are in descending order, none of which starts after it. -/
def pushRange (descending : List CodeRange) (r : CodeRange) : List CodeRange :=
  if r.hi < r.lo then descending
  else match descending with
    | [] => [r]
    | q :: rest => if r.lo ≤ q.hi + 1 then ⟨q.lo, max q.hi r.hi⟩ :: rest else r :: q :: rest

/-- The set of the given ranges, in normal form. -/
def ofRanges (rs : List CodeRange) : CharSet :=
  ⟨((rs.mergeSort fun a b => a.lo ≤ b.lo).foldl pushRange []).reverse⟩

/-- The gaps that ranges in ascending order leave below `maxCode`, from `start` on. -/
def gaps (start : Nat) (rs : List CodeRange) : List CodeRange :=
  let (next, found) := rs.foldl (fun (next, found) r =>
    (r.hi + 1, if next < r.lo then ⟨next, r.lo - 1⟩ :: found else found)) (start, [])
  (if next ≤ maxCode then ⟨next, maxCode⟩ :: found else found).reverse

/-! ## Operations -/

/-- The members of either set. -/
def union (s t : CharSet) : CharSet :=
  ofRanges (s.ranges ++ t.ranges)

/-- The characters that are not members. -/
def complement (s : CharSet) : CharSet :=
  ⟨gaps 0 (ofRanges s.ranges).ranges⟩

/-- The members of both sets. -/
def inter (s t : CharSet) : CharSet :=
  (s.complement.union t.complement).complement

/-- The members of `s` that are not in `t`. -/
def diff (s t : CharSet) : CharSet :=
  s.inter t.complement

/-- The members of exactly one of the two sets. -/
def symmDiff (s t : CharSet) : CharSet :=
  (s.diff t).union (t.diff s)

/-- The members of any of the sets. -/
def unions (ss : List CharSet) : CharSet :=
  ofRanges (ss.flatMap ranges)

/-- Whether every member is below 128. -/
def isAscii (s : CharSet) : Bool :=
  s.ranges.all fun r => r.hi < 128

/-- The only member, if there is exactly one. -/
def only? (s : CharSet) : Option Char :=
  match s.ranges with
  | [r] => if r.lo = r.hi ∧ r.lo.isValidChar then some (Char.ofNat r.lo) else none
  | _ => none

/-! ## Tables as text

The lines of a table are hexadecimal entries with blanks between: `41` is one code point, `41-5A` a range,
and `100-12E/2` every second code point from `100` to `12E`. -/

/-- An entry as far as it has been read. -/
structure Entry where
  first : Nat
  last : Option Nat
  stride : Option Nat
deriving Inhabited

namespace Entry

/-- Reads one more character of an entry. -/
def push (e : Entry) (c : Char) : Entry :=
  let digit := if c.isDigit then c.toNat - 48 else c.toNat - 55
  if c = '-' then { e with last := some 0 }
  else if c = '/' then { e with stride := some 0 }
  else match e.last, e.stride with
    | none, _ => { e with first := 16 * e.first + digit }
    | some l, none => { e with last := some (16 * l + digit) }
    | _, some k => { e with stride := some (16 * k + digit) }

/-- The ranges that an entry stands for. -/
def toRanges (e : Entry) : List CodeRange :=
  match e.last, e.stride with
  | none, _ => [⟨e.first, e.first⟩]
  | some l, none => [⟨e.first, l⟩]
  | some l, some k =>
    (List.range ((l - e.first) / k + 1)).map fun i => ⟨e.first + i * k, e.first + i * k⟩

/-- The entries of a line of a table. -/
def ofLine (line : String) : List Entry :=
  (segments ' ' line.toList).map fun word => word.foldl push ⟨0, none, none⟩

end Entry

/-- The set that the lines of a table list. -/
def ofText (lines : List String) : CharSet :=
  ofRanges (lines.flatMap fun line => (Entry.ofLine line).flatMap Entry.toRanges)

end CharSet
end MarkerAudit
