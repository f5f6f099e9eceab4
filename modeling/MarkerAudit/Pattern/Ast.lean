import MarkerAudit.Text

/-!
# Written patterns

The tree of a pattern as it was written. Every node keeps the span of characters it came from, because a
pattern can still be refused after it has been read, and the message points at the part that is refused.
-/

namespace MarkerAudit.Pattern

/-- The characters from position `start` up to but not including `stop`. -/
structure Span where
  start : Nat
  stop : Nat
deriving DecidableEq, Repr, Inhabited

/-- One character to be matched. `isByte` marks `\x7F`: two hexadecimal digits without braces, which stand
for a byte where a pattern is about bytes. -/
structure Literal where
  span : Span
  char : Char
  isByte : Bool := false
deriving DecidableEq, Repr, Inhabited

/-- The classes with a letter of their own: `\d`, `\s` and `\w`. -/
inductive LetterClass
  | digit
  | space
  | word
deriving DecidableEq, Repr

/-- The classes that are written `[:name:]`. -/
inductive AsciiClass
  | alnum | alpha | ascii | blank | cntrl | digit | graph | lower | print | punct | space | upper | word | xdigit
deriving DecidableEq, Repr

/-- How a class of `\p` names its characters. -/
inductive PropertyQuery
  | named (name : Text)
  | valued (property value : Text)
deriving DecidableEq, Repr

/-- A condition on a position, as it is written. -/
inductive Anchor
  | lineStart
  | lineEnd
  | textStart
  | textEnd
  | wordBoundary
  | notWordBoundary
  | wordStart
  | wordEnd
  | wordStartHalf
  | wordEndHalf
deriving DecidableEq, Repr

/-- The modes that `(?flags)` switches. -/
inductive Flag
  | caseInsensitive
  | multiLine
  | dotMatchesNewLine
  | swapGreed
  | unicode
  | crlf
  | ignoreBlanks
deriving DecidableEq, Repr

/-- Flags in the order written, each with whether it is switched on. -/
abbrev FlagChanges := List (Flag × Bool)

/-- The operators between two parts of a bracketed class. -/
inductive SetOperator
  | intersection
  | difference
  | symmetricDifference
deriving DecidableEq, Repr

/-- What stands between the brackets of a class. -/
inductive ClassAst
  | empty (span : Span)
  | literal (l : Literal)
  | range (span : Span) (lo hi : Literal)
  | ascii (span : Span) (negated : Bool) (name : AsciiClass)
  | letter (span : Span) (negated : Bool) (name : LetterClass)
  | property (span : Span) (negated : Bool) (query : PropertyQuery)
  | bracketed (span : Span) (negated : Bool) (body : ClassAst)
  | union (span : Span) (items : List ClassAst)
  | binary (span : Span) (op : SetOperator) (left right : ClassAst)
deriving Repr, Inhabited

/-- A group remembers what it matched, or only changes flags inside it. -/
inductive GroupKind
  | capture
  | plain (changes : FlagChanges)
deriving DecidableEq, Repr

/-- Which numbers of rounds a repetition tries first, the small ones or the great ones. -/
inductive Greed
  | lazy
  | greedy
deriving DecidableEq, Repr

/-- The other way round. -/
def Greed.swapped : Greed → Greed
  | .lazy => .greedy
  | .greedy => .lazy

/-- A pattern as it was written. -/
inductive Ast
  | empty (span : Span)
  | flags (span : Span) (changes : FlagChanges)
  | literal (l : Literal)
  | dot (span : Span)
  | anchor (span : Span) (a : Anchor)
  | letter (span : Span) (negated : Bool) (name : LetterClass)
  | property (span : Span) (negated : Bool) (query : PropertyQuery)
  | bracketed (span : Span) (negated : Bool) (body : ClassAst)
  | repetition (span : Span) (least : Nat) (most : Option Nat) (greed : Greed) (body : Ast)
  | group (span : Span) (kind : GroupKind) (body : Ast)
  | alternation (span : Span) (branches : List Ast)
  | concat (span : Span) (items : List Ast)
deriving Repr, Inhabited

/-- The characters that the class was read from. -/
def ClassAst.span : ClassAst → Span
  | .empty s | .range s _ _ | .ascii s _ _ | .letter s _ _ | .property s _ _ | .bracketed s _ _
  | .union s _ | .binary s _ _ _ => s
  | .literal l => l.span

/-- The characters that the pattern was read from. -/
def Ast.span : Ast → Span
  | .empty s | .flags s _ | .dot s | .anchor s _ | .letter s _ _ | .property s _ _ | .bracketed s _ _
  | .repetition s _ _ _ _ | .group s _ _ | .alternation s _ | .concat s _ => s
  | .literal l => l.span

/-- The setting that changes give a flag, if they mention it. -/
def FlagChanges.setting? (changes : FlagChanges) (f : Flag) : Option Bool :=
  (List.find? (fun change => change.1 = f) changes).map Prod.snd

/-! ## Nesting

The depth of a node counts the nodes above it that hold others, itself included. Reading keeps its own
stack, but what comes later recurses on the tree, so trees that are too deep are refused. -/

/-- The greatest depth that is accepted. -/
def nestLimit : Nat := 250

/-- The span of the first node of a class that lies deeper than `room` levels, in the order written. -/
def ClassAst.tooDeep? (room : Nat) : ClassAst → Option Span
  | .empty _ | .literal _ | .range _ _ _ | .ascii _ _ _ | .letter _ _ _ | .property _ _ _ => none
  | .bracketed s _ body =>
    match room with
    | 0 => some s
    | room + 1 => body.tooDeep? room
  | .union s items =>
    match room with
    | 0 => some s
    | room + 1 => anyTooDeep? room items
  | .binary s _ left right =>
    match room with
    | 0 => some s
    | room + 1 =>
      match left.tooDeep? room with
      | some s => some s
      | none => right.tooDeep? room
where
  /-- The first of several classes on one level. -/
  anyTooDeep? (room : Nat) : List ClassAst → Option Span
    | [] => none
    | a :: items =>
      match a.tooDeep? room with
      | some s => some s
      | none => anyTooDeep? room items

/-- The span of the first node that lies deeper than `room` levels, in the order written. -/
def Ast.tooDeep? (room : Nat) : Ast → Option Span
  | .empty _ | .flags _ _ | .literal _ | .dot _ | .anchor _ _ | .letter _ _ _ | .property _ _ _ => none
  | .bracketed s _ body =>
    match room with
    | 0 => some s
    | room + 1 => body.tooDeep? room
  | .repetition s _ _ _ body =>
    match room with
    | 0 => some s
    | room + 1 => body.tooDeep? room
  | .group s _ body =>
    match room with
    | 0 => some s
    | room + 1 => body.tooDeep? room
  | .alternation s branches =>
    match room with
    | 0 => some s
    | room + 1 => anyTooDeep? room branches
  | .concat s items =>
    match room with
    | 0 => some s
    | room + 1 => anyTooDeep? room items
where
  /-- The first of several patterns on one level. -/
  anyTooDeep? (room : Nat) : List Ast → Option Span
    | [] => none
    | a :: items =>
      match a.tooDeep? room with
      | some s => some s
      | none => anyTooDeep? room items

end MarkerAudit.Pattern
