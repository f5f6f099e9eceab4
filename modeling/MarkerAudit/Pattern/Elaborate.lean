import MarkerAudit.Pattern.Expr
import MarkerAudit.Pattern.Error
import MarkerAudit.Unicode.Lookup

/-!
# From written patterns to expressions

Flags are carried along from left to right and end with the group they stand in; names of classes become
sets. A pattern that could split the encoding of a character is refused, as is Unicode where it is off.
-/

namespace MarkerAudit.Pattern

/-- The modes that change what a pattern means. -/
structure Modes where
  caseInsensitive : Bool := false
  multiLine : Bool := false
  dotMatchesNewLine : Bool := false
  unicode : Bool := true
  crlf : Bool := false
  swapGreed : Bool := false
deriving DecidableEq, Repr

/-- The modes after a change of flags. -/
def Modes.apply (m : Modes) (changes : FlagChanges) : Modes where
  caseInsensitive := (changes.setting? .caseInsensitive).getD m.caseInsensitive
  multiLine := (changes.setting? .multiLine).getD m.multiLine
  dotMatchesNewLine := (changes.setting? .dotMatchesNewLine).getD m.dotMatchesNewLine
  unicode := (changes.setting? .unicode).getD m.unicode
  crlf := (changes.setting? .crlf).getD m.crlf
  swapGreed := (changes.setting? .swapGreed).getD m.swapGreed

/-! ## Classes -/

/-- The letters of ASCII. -/
def asciiLetters : CharSet := ⟨[⟨65, 90⟩, ⟨97, 122⟩]⟩

/-- The set together with the other case of its ASCII letters. -/
def closeAsciiCase (s : CharSet) : CharSet :=
  let letters := s.inter asciiLetters
  .ofRanges (s.ranges ++ (letters.ranges.filter (·.hi ≤ 90)).map (fun r => ⟨r.lo + 32, r.hi + 32⟩)
    ++ (letters.ranges.filter (97 ≤ ·.lo)).map fun r => ⟨r.lo - 32, r.hi - 32⟩)

/-- The set with both cases of its members, if case does not count. -/
def Modes.fold (m : Modes) (s : CharSet) : CharSet :=
  if m.caseInsensitive then
    if m.unicode then Unicode.CaseFolding.close s else closeAsciiCase s
  else s

/-- The set, negated or not. Without Unicode a class is about bytes, and one that holds a byte above 127
could match inside a character. -/
def Modes.negate (m : Modes) (span : Span) (negated : Bool) (s : CharSet) : Except SyntaxError CharSet :=
  let s := if negated then s.complement else s
  if m.unicode || s.isAscii then .ok s else .error { cause := .invalidUtf8, span }

/-- The members of a class in ASCII. -/
def AsciiClass.members : AsciiClass → CharSet
  | .alnum => ⟨[⟨48, 57⟩, ⟨65, 90⟩, ⟨97, 122⟩]⟩
  | .alpha => asciiLetters
  | .ascii => ⟨[⟨0, 127⟩]⟩
  | .blank => ⟨[⟨9, 9⟩, ⟨32, 32⟩]⟩
  | .cntrl => ⟨[⟨0, 31⟩, ⟨127, 127⟩]⟩
  | .digit => ⟨[⟨48, 57⟩]⟩
  | .graph => ⟨[⟨33, 126⟩]⟩
  | .lower => ⟨[⟨97, 122⟩]⟩
  | .print => ⟨[⟨32, 126⟩]⟩
  | .punct => ⟨[⟨33, 47⟩, ⟨58, 64⟩, ⟨91, 96⟩, ⟨123, 126⟩]⟩
  | .space => ⟨[⟨9, 13⟩, ⟨32, 32⟩]⟩
  | .upper => ⟨[⟨65, 90⟩]⟩
  | .word => asciiWord
  | .xdigit => ⟨[⟨48, 57⟩, ⟨65, 70⟩, ⟨97, 102⟩]⟩

/-- The members of a class with a letter of its own. -/
def LetterClass.members (unicode : Bool) : LetterClass → CharSet
  | .digit => if unicode then Unicode.Category.decimalNumber else AsciiClass.members .digit
  | .space => if unicode then Unicode.Property.whiteSpace else AsciiClass.members .space
  | .word => if unicode then Unicode.Property.word else asciiWord

/-- The members of a property class. -/
def PropertyQuery.members (span : Span) : PropertyQuery → Except SyntaxError CharSet
  | .named n => convert (Unicode.ofName n)
  | .valued p v => convert (Unicode.ofValue p v)
where
  /-- The fault of a pattern that a failed search for a property is. -/
  convert : Except Unicode.LookupError CharSet → Except SyntaxError CharSet
    | .ok s => .ok s
    | .error .unknownProperty => .error { cause := .propertyNotFound, span }
    | .error .unknownValue => .error { cause := .propertyValueNotFound, span }

/-- The members of a property class that may be negated. -/
def Modes.property (m : Modes) (span : Span) (negated : Bool) (q : PropertyQuery) :
    Except SyntaxError CharSet :=
  if !m.unicode then .error { cause := .unicodeNotAllowed, span }
  else match q.members span with
    | .error e => .error e
    | .ok s => m.negate span negated (m.fold s)

/-- Refuses a character given as a byte above 127 where patterns are about bytes. -/
def Modes.checkByte (m : Modes) (l : Literal) : Except SyntaxError Char :=
  if !m.unicode && l.isByte && 128 ≤ l.char.toNat then .error { cause := .invalidUtf8, span := l.span }
  else .ok l.char

/-- The character of a literal in a class, which must be a byte where classes are about bytes. -/
def Modes.classChar (m : Modes) (l : Literal) : Except SyntaxError Char :=
  match m.checkByte l with
  | .error e => .error e
  | .ok c =>
    if m.unicode || c.toNat < 128 then .ok c else .error { cause := .unicodeNotAllowed, span := l.span }

/-- The set that an operator makes of two sets. -/
def SetOperator.apply : SetOperator → CharSet → CharSet → CharSet
  | .intersection => CharSet.inter
  | .difference => CharSet.diff
  | .symmetricDifference => CharSet.symmDiff

/-- The members of what stands between the brackets of a class. -/
def ClassAst.members (m : Modes) : ClassAst → Except SyntaxError CharSet
  | .empty _ => .ok .empty
  | .literal l =>
    match m.classChar l with
    | .error e => .error e
    | .ok c => .ok (.single c)
  | .range _ lo hi =>
    match m.classChar lo, m.classChar hi with
    | .error e, _ => .error e
    | _, .error e => .error e
    | .ok a, .ok b => .ok ⟨[⟨a.toNat, b.toNat⟩]⟩
  | .ascii span negated name => m.negate span negated (m.fold name.members)
  | .letter span negated name => m.negate span negated (name.members m.unicode)
  | .property span negated q => m.property span negated q
  | .bracketed span negated body =>
    match body.members m with
    | .error e => .error e
    | .ok s => m.negate span negated (m.fold s)
  | .union _ items => unionMembers m items []
  | .binary _ op left right =>
    match left.members m with
    | .error e => .error e
    | .ok a =>
      match right.members m with
      | .error e => .error e
      | .ok b => .ok (op.apply (m.fold a) (m.fold b))
where
  /-- The members of the items, together with those of the sets in `done`. -/
  unionMembers (m : Modes) : List ClassAst → List CharSet → Except SyntaxError CharSet
    | [], done => .ok (.unions done)
    | a :: rest, done =>
      match a.members m with
      | .error e => .error e
      | .ok s => unionMembers m rest (s :: done)

/-! ## Patterns -/

/-- The set that a dot stands for. -/
def Modes.dot (m : Modes) : CharSet :=
  if m.dotMatchesNewLine then .all
  else if m.crlf then ⟨[⟨0, 9⟩, ⟨11, 12⟩, ⟨14, CharSet.maxCode⟩]⟩
  else ⟨[⟨0, 9⟩, ⟨11, CharSet.maxCode⟩]⟩

/-- The condition that an anchor stands for. -/
def Modes.look (m : Modes) : Anchor → Look
  | .lineStart => if m.multiLine then (if m.crlf then .crlfLineStart else .lineStart) else .textStart
  | .lineEnd => if m.multiLine then (if m.crlf then .crlfLineEnd else .lineEnd) else .textEnd
  | .textStart => .textStart
  | .textEnd => .textEnd
  | .wordBoundary => .word m.unicode .boundary
  | .notWordBoundary => .word m.unicode .notBoundary
  | .wordStart => .word m.unicode .wordStart
  | .wordEnd => .word m.unicode .wordEnd
  | .wordStartHalf => .word m.unicode .startHalf
  | .wordEndHalf => .word m.unicode .endHalf

/-- The expression of one character, which stands for its other cases too if case does not count. -/
def Modes.char (m : Modes) (c : Char) : Expr Atom :=
  if m.caseInsensitive then .ofSet (m.fold (.single c)) else .run [.char c]

/-- The expression of a pattern under the given modes, and the modes behind it. -/
def Ast.elaborate (m : Modes) : Ast → Except SyntaxError (Expr Atom × Modes)
  | .empty _ => .ok (.empty, m)
  | .flags _ changes => .ok (.empty, m.apply changes)
  | .literal l =>
    match m.checkByte l with
    | .error e => .error e
    | .ok c => .ok (m.char c, m)
  | .dot span => if m.unicode then .ok (.ofSet m.dot, m) else .error { cause := .invalidUtf8, span }
  | .anchor _ a => .ok (.run [.look (m.look a)], m)
  | .letter span negated name =>
    match m.negate span negated (name.members m.unicode) with
    | .error e => .error e
    | .ok s => .ok (.ofSet s, m)
  | .property span negated q =>
    match m.property span negated q with
    | .error e => .error e
    | .ok s => .ok (.ofSet s, m)
  | .bracketed span negated body =>
    match body.members m with
    | .error e => .error e
    | .ok s =>
      match m.negate span negated (m.fold s) with
      | .error e => .error e
      | .ok s => .ok (.ofSet s, m)
  | .repetition _ least most greed body =>
    match body.elaborate m with
    | .error e => .error e
    | .ok (e, m) => .ok (e.repeated least most (if m.swapGreed then greed.swapped else greed), m)
  | .group _ .capture body =>
    match body.elaborate m with
    | .error e => .error e
    | .ok (e, _) => .ok (.capture e, m)
  | .group _ (.plain changes) body =>
    match body.elaborate (m.apply changes) with
    | .error e => .error e
    | .ok (e, _) => .ok (e, m)
  | .alternation _ branches =>
    match elaborateAll m branches [] with
    | .error e => .error e
    | .ok (es, m) => .ok (.alternation es, m)
  | .concat _ items =>
    match elaborateAll m items [] with
    | .error e => .error e
    | .ok (es, m) => .ok (.concat es, m)
where
  /-- The expressions of several patterns in a row; `done` holds those before, last first. -/
  elaborateAll (m : Modes) : List Ast → List (Expr Atom) → Except SyntaxError (List (Expr Atom) × Modes)
    | [], done => .ok (done.reverse, m)
    | a :: rest, done =>
      match a.elaborate m with
      | .error e => .error e
      | .ok (e, m) => elaborateAll m rest (e :: done)

end MarkerAudit.Pattern
