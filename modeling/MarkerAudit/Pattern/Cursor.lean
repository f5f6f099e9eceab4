import MarkerAudit.Pattern.Error
import MarkerAudit.Unicode.Derived

/-!
# Reading position

A cursor is the rest of the pattern with its position. In blank-ignoring mode blanks and comments, which
run from `#` to the end of the line, are skipped between tokens.
-/

namespace MarkerAudit.Pattern

/-- What is left of a pattern, where it begins, and whether blanks are skipped. -/
structure Cursor where
  rest : Text
  pos : Nat
  ignoreBlanks : Bool
deriving Repr, Inhabited

namespace Cursor

/-- The cursor at the start of a pattern. -/
def ofText (t : Text) : Cursor := ⟨t, 0, false⟩

/-- The cursor behind the next character. -/
def advance (c : Cursor) : Cursor :=
  match c.rest with
  | [] => c
  | _ :: r => { c with rest := r, pos := c.pos + 1 }

/-- The cursor `n` characters on. -/
def advanceBy (n : Nat) (c : Cursor) : Cursor :=
  { c with rest := c.rest.drop n, pos := c.pos + min n c.rest.length }

/-- Skips blanks and comments; `inComment` tells whether a comment is open. -/
def skip (inComment : Bool) (pos : Nat) : Text → Text × Nat
  | [] => ([], pos)
  | c :: r =>
    if inComment then skip (c ≠ '\n') (pos + 1) r
    else if Unicode.Property.whiteSpace.contains c then skip false (pos + 1) r
    else if c = '#' then skip true (pos + 1) r
    else (c :: r, pos)

/-- The cursor at the next token. -/
def skipBlanks (c : Cursor) : Cursor :=
  if c.ignoreBlanks then
    let (rest, pos) := skip false c.pos c.rest
    { c with rest := rest, pos := pos }
  else c

/-- The cursor at the next token behind the next character. -/
def next (c : Cursor) : Cursor := c.advance.skipBlanks

/-- The empty span at the cursor. -/
def here (c : Cursor) : Span := ⟨c.pos, c.pos⟩

/-- The span of the next character. -/
def charSpan (c : Cursor) : Span := ⟨c.pos, c.pos + 1⟩

/-- The span from `start` to the cursor. -/
def spanFrom (c : Cursor) (start : Nat) : Span := ⟨start, c.pos⟩

/-- Whether the rest starts with `p`. -/
def startsWith (c : Cursor) (p : String) : Bool := p.toList.isPrefixOf c.rest

/-- Looks past blanks for the character behind the next one. A comment hides only its `#`, and where
nothing but blanks is left the character right behind is seen. -/
def peekBehind? (c : Cursor) : Option Char :=
  let behind := c.rest.drop 1
  if c.ignoreBlanks then
    match look false behind with
    | some d => some d
    | none => behind.head?
  else behind.head?
where
  /-- The first character that is neither a blank nor the first `#`. -/
  look (seen : Bool) : Text → Option Char
    | [] => none
    | d :: r =>
      if Unicode.Property.whiteSpace.contains d then look seen r
      else if d = '#' && !seen then look true r
      else some d

/-- Skips white space, in either mode. -/
def skipSpace (pos : Nat) : Text → Text × Nat
  | [] => ([], pos)
  | c :: r => if Unicode.Property.whiteSpace.contains c then skipSpace (pos + 1) r else (c :: r, pos)

end Cursor

/-- Refuses with a cause at a span. -/
def refuse {α : Type} (cause : SyntaxCause) (span : Span) (related : Option Span := none) :
    Except SyntaxError α :=
  .error { cause, span, related }

end MarkerAudit.Pattern
