/-!
# Text

Every text that is searched, matched or reported is a list of characters, so that a position is a
number of characters and recursion on the text is recursion on a list. Fixed wording stays `String`.
-/

namespace MarkerAudit

/-- A text as the list of its characters. -/
abbrev Text := List Char

/-- A file's contents, a file name or an argument before decoding. -/
abbrev Bytes := List UInt8

/-- The segments between occurrences of `sep`, at least one, none of which holds `sep`. -/
def segments {α : Type} [DecidableEq α] (sep : α) (xs : List α) : List (List α) :=
  xs.foldr (fun x segs =>
    if x = sep then [] :: segs
    else match segs with
      | [] => [[x]]
      | s :: rest => (x :: s) :: rest) [[]]

/-- The rest behind `p`, if the list starts with it. -/
def dropPrefix? {α : Type} [DecidableEq α] : List α → List α → Option (List α)
  | xs, [] => some xs
  | [], _ :: _ => none
  | x :: xs, y :: p => if x = y then dropPrefix? xs p else none

/-- The sum of numbers. -/
def total (ns : List Nat) : Nat := ns.foldr (· + ·) 0

/-- Whether a list comes before another or equals it, by the keys of what they differ in first. -/
def comesBefore {α : Type} (key : α → Nat) : List α → List α → Bool
  | [], _ => true
  | _ :: _, [] => false
  | x :: xs, y :: ys => if key x = key y then comesBefore key xs ys else key x < key y

namespace Text

/-- `parts` joined with `sep` between neighbours. -/
def joinWith (sep : Text) : List Text → Text
  | [] => []
  | p :: parts => p ++ parts.flatMap (sep ++ ·)

/-- The position of the first place where `p` holds of the rest of the text, the end included. -/
def findIndex? (p : Text → Bool) (t : Text) : Option Nat :=
  go t 0
where
  /-- Counts the characters passed in `i`. -/
  go : Text → Nat → Option Nat
    | [], i => if p [] then some i else none
    | c :: r, i => if p (c :: r) then some i else go r (i + 1)

/-- The text before the first occurrence of `sep` and the text behind it. -/
def cut? (sep t : Text) : Option (Text × Text) :=
  (findIndex? (fun rest => sep.isPrefixOf rest) t).map fun i => (t.take i, t.drop (i + sep.length))

/-- Texts in ascending order by code points. Equal ones all stay. -/
def sort (ts : List Text) : List Text :=
  ts.mergeSort (comesBefore Char.toNat)

/-- The list without elements that equal the one before them. -/
def dropRepeats : List Text → List Text
  | s :: t :: ts => if s = t then dropRepeats (t :: ts) else s :: dropRepeats (t :: ts)
  | ts => ts

/-- The texts of a list in ascending order by code points, each once. -/
def sortedSet (ts : List Text) : List Text := dropRepeats (sort ts)

/-- A number in decimal digits, without leading zeros. -/
def ofNat (n : Nat) : Text := Nat.toDigits 10 n

end Text
end MarkerAudit
