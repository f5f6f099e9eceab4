import MarkerAudit.Ascii
import MarkerAudit.Text

/-!
# Globs

Patterns of ignore files: `?`, `*`, sets in brackets and backslashes, and, where a pattern is about whole paths,
`**` for any number of directories.
-/

namespace MarkerAudit

open Ascii

/-- A part of a glob. -/
inductive GlobPart
  | byte (b : UInt8)
  | any
  | set (ranges : List (UInt8 × UInt8)) (negated : Bool)
  | run
  | runAcross
  | directories
deriving DecidableEq, Repr

/-- A glob. If it is about paths, slashes are matched only by slashes, by `runAcross` and by `directories`. -/
structure Glob where
  ofPath : Bool
  parts : List GlobPart
deriving DecidableEq, Repr

namespace Glob

/-! ## Matching -/

/-- The rests of a text that a run can leave; it takes no slash unless `across` is set. -/
def rests (across : Bool) : Bytes → List Bytes
  | [] => [[]]
  | b :: t => (b :: t) :: if across || b ≠ slash then rests across t else []

/-- The rests of a text behind each of its slashes. -/
def behindSlashes : Bytes → List Bytes
  | [] => []
  | b :: t => if b = slash then t :: behindSlashes t else behindSlashes t

/-- Whether parts match all of a text. -/
def partsMatch (ofPath : Bool) : List GlobPart → Bytes → Bool
  | [], t => t.isEmpty
  | .byte b :: parts, t =>
    match t with
    | c :: t => b = c && partsMatch ofPath parts t
    | [] => false
  | .any :: parts, t =>
    match t with
    | c :: t => !(ofPath && c = slash) && partsMatch ofPath parts t
    | [] => false
  | .set ranges negated :: parts, t =>
    match t with
    | c :: t =>
      (ranges.any fun (lo, hi) => lo ≤ c && c ≤ hi) != negated && !(ofPath && c = slash)
        && partsMatch ofPath parts t
    | [] => false
  | .run :: parts, t => (rests (!ofPath) t).any (partsMatch ofPath parts)
  | .runAcross :: parts, t => (rests true t).any (partsMatch ofPath parts)
  | .directories :: parts, t => (t :: behindSlashes t).any (partsMatch ofPath parts)

/-- Whether a glob matches all of a text. -/
def isMatch (g : Glob) (t : Bytes) : Bool := partsMatch g.ofPath g.parts t

/-! ## Reading -/

/-- The ranges of the classes that a set can name. -/
def classes : List (String × List (UInt8 × UInt8)) := [
  ("alnum", [(48, 57), (65, 90), (97, 122)]),
  ("alpha", [(65, 90), (97, 122)]),
  ("blank", [(9, 9), (32, 32)]),
  ("cntrl", [(0, 31), (127, 127)]),
  ("digit", [(48, 57)]),
  ("graph", [(33, 126)]),
  ("lower", [(97, 122)]),
  ("print", [(32, 126)]),
  ("punct", [(33, 47), (58, 64), (91, 96), (123, 126)]),
  ("space", [(9, 13), (32, 32)]),
  ("upper", [(65, 90)]),
  ("xdigit", [(48, 57), (65, 70), (97, 102)])]

/-- A class at the start of a text that follows `[:`: its ranges, if there is such a class, and what is behind
its closing bracket. There is no class if no colon stands before the bracket. -/
def readClass (t : Bytes) : Option (Option (List (UInt8 × UInt8)) × Bytes) :=
  let inner := t.takeWhile (· ≠ closeBracket)
  match t.drop inner.length with
  | [] => some (none, [])
  | _ :: rest =>
    if inner.getLast? = some colon then
      let name := inner.dropLast
      some ((classes.find? fun c => c.1.toUTF8.toList = name).map Prod.snd, rest)
    else none

/-- Reads the members of a set up to its closing bracket, which as the first member stands for itself. `last` is
the member before, if a range may start from it. There is no set if the bracket is missing. -/
def readSet : (fuel : Nat) → (isFirst : Bool) → (last : Option UInt8) → List (UInt8 × UInt8) → Bytes →
    Option (List (UInt8 × UInt8) × Bytes)
  | 0, _, _, _, _ => none
  | fuel + 1, isFirst, last, ranges, t =>
    match t with
    | [] => none
    | closeBracket :: rest =>
      if isFirst then readSet fuel false (some closeBracket) (ranges ++ [(closeBracket, closeBracket)]) rest
      else some (ranges, rest)
    | backslash :: rest =>
      match rest with
      | [] => none
      | b :: rest => readSet fuel false (some b) (ranges ++ [(b, b)]) rest
    | hyphen :: hi :: rest =>
      match last with
      | some lo =>
        if hi = closeBracket then readSet fuel false (some hyphen) (ranges ++ [(hyphen, hyphen)]) (hi :: rest)
        else if hi = backslash then
          match rest with
          | [] => none
          | hi :: rest => readSet fuel false none (ranges ++ [(lo, hi)]) rest
        else readSet fuel false none (ranges ++ [(lo, hi)]) rest
      | none => readSet fuel false (some hyphen) (ranges ++ [(hyphen, hyphen)]) (hi :: rest)
    | openBracket :: colon :: rest =>
      match readClass rest with
      | some (none, _) => none
      | some (some found, rest) => readSet fuel false none (ranges ++ found) rest
      | none => readSet fuel false (some openBracket) (ranges ++ [(openBracket, openBracket)]) (colon :: rest)
    | b :: rest => readSet fuel false (some b) (ranges ++ [(b, b)]) rest

/-- Reads parts. `atStart` tells that nothing or a slash stands before. A set that is not closed matches
nothing. -/
def readParts (ofPath : Bool) : (fuel : Nat) → (atStart : Bool) → Bytes → List GlobPart
  | 0, _, _ => []
  | fuel + 1, atStart, t =>
    match t with
    | [] => []
    | backslash :: b :: rest => .byte b :: readParts ofPath fuel (b = slash) rest
    | questionMark :: rest => .any :: readParts ofPath fuel false rest
    | asterisk :: asterisk :: more =>
      let rest := more.dropWhile (· = asterisk)
      if !ofPath then .run :: readParts ofPath fuel false rest
      else match atStart, rest with
        | true, [] => [.runAcross]
        | true, slash :: rest => .directories :: readParts ofPath fuel true rest
        | true, backslash :: slash :: rest => .runAcross :: .byte slash :: readParts ofPath fuel true rest
        | _, rest => .run :: readParts ofPath fuel false rest
    | asterisk :: rest => .run :: readParts ofPath fuel false rest
    | openBracket :: rest =>
      let (negated, members) := match rest with
        | exclamationMark :: members => (true, members)
        | caret :: members => (true, members)
        | members => (false, members)
      match readSet (members.length + 1) true none [] members with
      | some (ranges, rest) => .set ranges negated :: readParts ofPath fuel false rest
      | none => [.set [] false]
    | b :: rest => .byte b :: readParts ofPath fuel (b = slash) rest

/-- The glob written as a text. -/
def ofBytes (ofPath : Bool) (t : Bytes) : Glob :=
  ⟨ofPath, readParts ofPath (t.length + 1) true t⟩

end Glob
end MarkerAudit
