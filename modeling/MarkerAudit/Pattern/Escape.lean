import MarkerAudit.Pattern.Cursor

/-!
# Escapes

What may follow a backslash: characters by name or number, classes, and conditions on a position.
-/

namespace MarkerAudit.Pattern

/-- A construct of one token, the same inside and outside a bracketed class. -/
inductive Primitive
  | literal (l : Literal)
  | dot (span : Span)
  | anchor (span : Span) (a : Anchor)
  | letter (span : Span) (negated : Bool) (name : LetterClass)
  | property (span : Span) (negated : Bool) (query : PropertyQuery)
deriving Repr

/-- The characters that the primitive was read from. -/
def Primitive.span : Primitive → Span
  | .literal l => l.span
  | .dot s | .anchor s _ | .letter s _ _ | .property s _ _ => s

/-- The primitive as a pattern. -/
def Primitive.toAst : Primitive → Ast
  | .literal l => .literal l
  | .dot s => .dot s
  | .anchor s a => .anchor s a
  | .letter s negated name => .letter s negated name
  | .property s negated query => .property s negated query

/-- The characters with a meaning of their own, which a backslash takes away. -/
def metaCharacters : Text :=
  ['\\', '.', '+', '*', '?', '(', ')', '|', '[', ']', '\x7b', '\x7d', '^', '$', '#', '&', '-', '~']

/-- Whether a backslash before the character makes it a literal: a meta character, or any other printable
or control character of ASCII but letters, digits and angle brackets. -/
def isEscapable (c : Char) : Bool :=
  metaCharacters.contains c || (c.toNat < 128 && !c.isAlphanum && c ≠ '<' && c ≠ '>')

/-- The value of a hexadecimal digit. -/
def hexValue? (c : Char) : Option Nat :=
  if c.isDigit then some (c.toNat - 48)
  else if 'a' ≤ c ∧ c ≤ 'f' then some (c.toNat - 87)
  else if 'A' ≤ c ∧ c ≤ 'F' then some (c.toNat - 55)
  else none

/-- The character with a code point, unless that is a surrogate or too great. -/
def scalar? (n : Nat) : Option Char :=
  if n.isValidChar then some (Char.ofNat n) else none

/-- Reads `count` hexadecimal digits from the cursor on, which stands at the first. -/
def readHexDigits : (count : Nat) → Cursor → (value : Nat) → Except SyntaxError (Nat × Cursor)
  | 0, c, value => .ok (value, c)
  | count + 1, c, value =>
    match c.rest with
    | [] => refuse .escapeUnexpectedEnd c.here
    | d :: _ =>
      match hexValue? d with
      | none => refuse .hexDigitInvalid c.charSpan
      | some v => readHexDigits count c.next (16 * value + v)

/-- Reads hexadecimal digits up to a closing brace; the cursor is left at the brace. -/
def readBracedHex : (fuel : Nat) → Cursor → (brace : Nat) → (digits : List Nat) →
    Except SyntaxError (List Nat × Cursor)
  | 0, c, brace, _ => refuse .escapeUnexpectedEnd (c.spanFrom brace)
  | fuel + 1, c, brace, digits =>
    match c.rest with
    | [] => refuse .escapeUnexpectedEnd (c.spanFrom brace)
    | d :: _ =>
      if d = '\x7d' then .ok (digits.reverse, c)
      else match hexValue? d with
        | none => refuse .hexDigitInvalid c.charSpan
        | some v => readBracedHex fuel c.next brace (v :: digits)

/-- Reads a character by its number; the cursor stands at the `x`, `u` or `U` and `start` at the backslash. -/
def readHex (kind : Char) (start : Nat) (c : Cursor) : Except SyntaxError (Primitive × Cursor) :=
  let c := c.next
  match c.rest with
  | [] => refuse .escapeUnexpectedEnd c.here
  | '\x7b' :: _ => do
    let (digits, close) ← readBracedHex (c.rest.length + 1) c.next c.pos []
    let after := close.next
    if digits = [] then refuse .hexEmpty (after.spanFrom c.pos)
    else match scalar? (digits.foldl (fun n d => 16 * n + d) 0) with
      | none => refuse .hexNotScalar ⟨c.pos + 1, close.pos⟩
      | some char => .ok (.literal { span := after.spanFrom start, char }, after)
  | _ => do
    let count := if kind = 'x' then 2 else if kind = 'u' then 4 else 8
    let (value, after) ← readHexDigits count c 0
    match scalar? value with
    | none => refuse .hexNotScalar (after.spanFrom c.pos)
    | some char => .ok (.literal { span := after.spanFrom start, char, isByte := kind = 'x' }, after)

/-- The query in a property class with braces: a name, or a property and a value with `!=`, `:` or `=`. -/
def queryOf (body : Text) : PropertyQuery :=
  match Text.cut? ['!', '='] body with
  | some (p, v) => .valued p v
  | none =>
    match Text.cut? [':'] body with
    | some (p, v) => .valued p v
    | none =>
      match Text.cut? ['='] body with
      | some (p, v) => .valued p v
      | none => .named body

/-- Reads up to a closing brace; the cursor is left at the brace. -/
def readBraced : (fuel : Nat) → Cursor → (body : Text) → Except SyntaxError (Text × Cursor)
  | 0, c, _ => refuse .escapeUnexpectedEnd c.here
  | fuel + 1, c, body =>
    match c.rest with
    | [] => refuse .escapeUnexpectedEnd c.here
    | d :: _ => if d = '\x7d' then .ok (body.reverse, c) else readBraced fuel c.next (d :: body)

/-- Reads a class of characters with a property; the cursor stands at the `p` or `P`. -/
def readProperty (negated : Bool) (start : Nat) (c : Cursor) : Except SyntaxError (Primitive × Cursor) :=
  let c := c.next
  match c.rest with
  | [] => refuse .escapeUnexpectedEnd c.here
  | '\x7b' :: _ => do
    let (body, close) ← readBraced (c.rest.length + 1) c.next []
    let after := close.advance
    .ok (.property (after.spanFrom start) negated (queryOf body), after)
  | d :: _ =>
    if d = '\\' then refuse .propertyLetterInvalid c.charSpan
    else
      let after := c.next
      .ok (.property (after.spanFrom start) negated (.named [d]), after)

/-- The names of word boundaries in braces. -/
def boundaryNamed? (name : Text) : Option Anchor :=
  if name = "start".toList then some .wordStart
  else if name = "end".toList then some .wordEnd
  else if name = "start-half".toList then some .wordStartHalf
  else if name = "end-half".toList then some .wordEndHalf
  else none

/-- Whether the character may stand in the name of a word boundary. -/
def isBoundaryChar (c : Char) : Bool := c.isAlpha || c = '-'

/-- Reads the name of a word boundary as far as its characters go. -/
def readBoundaryName : (fuel : Nat) → Cursor → (name : Text) → Text × Cursor
  | 0, c, name => (name.reverse, c)
  | fuel + 1, c, name =>
    match c.rest with
    | [] => (name.reverse, c)
    | d :: _ => if isBoundaryChar d then readBoundaryName fuel c.next (d :: name) else (name.reverse, c)

/-- Reads what may follow `\b` in braces; the cursor stands at the brace and `start` at the backslash. What
does not begin like a name is left for a counted repetition. -/
def readBoundary (start : Nat) (c : Cursor) : Except SyntaxError (Anchor × Cursor) :=
  let inside := c.next
  match inside.rest with
  | [] => refuse .boundaryUnexpectedEnd (inside.spanFrom start)
  | d :: _ =>
    if !isBoundaryChar d then .ok (.wordBoundary, c)
    else
      let (name, after) := readBoundaryName (inside.rest.length + 1) inside []
      match after.rest with
      | '\x7d' :: _ =>
        match boundaryNamed? name with
        | some a => .ok (a, after.advance)
        | none => refuse .boundaryUnrecognized (after.spanFrom inside.pos)
      | _ => refuse .boundaryUnclosed (after.spanFrom c.pos)

/-- The characters that are written with a letter. -/
def namedCharacter? : Char → Option Char
  | 'a' => some '\x07'
  | 'f' => some '\x0c'
  | 't' => some '\t'
  | 'n' => some '\n'
  | 'r' => some '\r'
  | 'v' => some '\x0b'
  | _ => none

/-- The conditions on a position that are written with a letter or an angle bracket. -/
def namedAnchor? : Char → Option Anchor
  | 'A' => some .textStart
  | 'z' => some .textEnd
  | 'B' => some .notWordBoundary
  | '<' => some .wordStart
  | '>' => some .wordEnd
  | _ => none

/-- The classes that are written with a letter, with whether the letter negates. -/
def namedClass? : Char → Option (Bool × LetterClass)
  | 'd' => some (false, .digit)
  | 's' => some (false, .space)
  | 'w' => some (false, .word)
  | 'D' => some (true, .digit)
  | 'S' => some (true, .space)
  | 'W' => some (true, .word)
  | _ => none

/-- Reads an escape; the cursor stands at the backslash. -/
def readEscape (c : Cursor) : Except SyntaxError (Primitive × Cursor) :=
  let start := c.pos
  let atLetter := c.advance
  match atLetter.rest with
  | [] => refuse .escapeUnexpectedEnd (atLetter.spanFrom start)
  | letter :: _ =>
    let after := atLetter.advance
    let span := after.spanFrom start
    if isEscapable letter then .ok (.literal { span, char := letter }, after)
    else if letter.isDigit then refuse .backreference span
    else if letter = 'x' ∨ letter = 'u' ∨ letter = 'U' then readHex letter start atLetter
    else if letter = 'p' ∨ letter = 'P' then readProperty (letter = 'P') start atLetter
    else match namedClass? letter with
    | some (negated, name) => .ok (.letter span negated name, after)
    | none =>
      match namedCharacter? letter with
      | some char => .ok (.literal { span, char }, after)
      | none =>
        match namedAnchor? letter with
        | some a => .ok (.anchor span a, after)
        | none =>
          if letter = 'b' then
            match after.rest with
            | '\x7b' :: _ => do
              let (a, behind) ← readBoundary start after
              .ok (.anchor (behind.spanFrom start) a, behind)
            | _ => .ok (.anchor span .wordBoundary, after)
          else refuse .escapeUnrecognized span

/-- Reads a construct of one token. -/
def readPrimitive (d : Char) (c : Cursor) : Except SyntaxError (Primitive × Cursor) :=
  if d = '\\' then readEscape c
  else
    let after := c.advance
    let span := c.charSpan
    if d = '.' then .ok (.dot span, after)
    else if d = '^' then .ok (.anchor span .lineStart, after)
    else if d = '$' then .ok (.anchor span .lineEnd, after)
    else .ok (.literal { span, char := d }, after)

end MarkerAudit.Pattern
