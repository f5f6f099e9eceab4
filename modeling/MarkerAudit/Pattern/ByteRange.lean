import MarkerAudit.CharSet

/-!
# Ranges of characters as ranges of bytes

A range of characters is a union of sequences of byte ranges: the encodings of its members. The sequences
are as few as splitting at the lengths of encodings and at full blocks of continuation bytes allows.
-/

namespace MarkerAudit.Pattern

/-- The bytes from `lo` to `hi`, both included. -/
structure ByteRange where
  lo : Nat
  hi : Nat
deriving DecidableEq, Repr

/-- The encoding of a code point. -/
def encodeCode (n : Nat) : List Nat :=
  if n < 0x80 then [n]
  else if n < 0x800 then [0xC0 + n / 64, 0x80 + n % 64]
  else if n < 0x10000 then [0xE0 + n / 4096, 0x80 + n / 64 % 64, 0x80 + n % 64]
  else [0xF0 + n / 262144, 0x80 + n / 4096 % 64, 0x80 + n / 64 % 64, 0x80 + n % 64]

/-- A code point after which the range from `s` to `e` is split: at surrogates, where encodings grow longer,
or where a block of continuation bytes is not full. -/
def splitPoint? (s e : Nat) : Option Nat :=
  if s < 0xE000 ∧ 0xD7FF < e then some 0xD7FF
  else match [0x7F, 0x7FF, 0xFFFF].find? fun m => s ≤ m && m < e with
    | some m => some m
    | none =>
      if e < 0x80 then none
      else [64, 4096, 262144].findSome? fun block =>
        if s / block = e / block then none
        else if s % block ≠ 0 then some (s / block * block + block - 1)
        else if e % block ≠ block - 1 then some (e / block * block - 1)
        else none

/-- The sequences for the code points from `s` to `e`, in ascending order. -/
def byteSequences : (fuel : Nat) → (s e : Nat) → List (List ByteRange)
  | 0, _, _ => []
  | fuel + 1, s, e =>
    if e < s then []
    else match splitPoint? s e with
      | none => [(encodeCode s).zipWith ByteRange.mk (encodeCode e)]
      | some m => byteSequences fuel s m ++ byteSequences fuel (if m = 0xD7FF then 0xE000 else m + 1) e

/-- The sequences for all members of a set. No range is split more than a few dozen times. -/
def sequencesOf (s : CharSet) : List (List ByteRange) :=
  s.ranges.flatMap fun r => byteSequences 64 r.lo r.hi

end MarkerAudit.Pattern
