import MarkerAudit.Pattern.Ast

/-!
# Refused patterns

Why a pattern is refused, and the message that shows the pattern with carets under the part at fault.
-/

namespace MarkerAudit.Pattern

/-- What is wrong with a written pattern. -/
inductive SyntaxCause
  | groupUnclosed
  | groupUnopened
  | groupNameEmpty
  | groupNameInvalid
  | groupNameUnclosed
  | groupNameDuplicate
  | lookAround
  | backreference
  | repetitionMissing
  | repetitionUnclosed
  | repetitionCountEmpty
  | repetitionCountInvalid
  | countTooLarge
  | flagUnrecognized
  | flagDuplicate
  | flagNegationRepeated
  | flagNegationDangling
  | flagUnexpectedEnd
  | classUnclosed
  | classRangeInvalid
  | classRangeBoundary
  | classEscapeInvalid
  | escapeUnrecognized
  | escapeUnexpectedEnd
  | hexEmpty
  | hexDigitInvalid
  | hexNotScalar
  | propertyLetterInvalid
  | boundaryUnclosed
  | boundaryUnrecognized
  | boundaryUnexpectedEnd
  | nestingTooDeep
  | unicodeNotAllowed
  | invalidUtf8
  | propertyNotFound
  | propertyValueNotFound
deriving DecidableEq, Repr

/-- The reason as it is reported. -/
def SyntaxCause.message : SyntaxCause → String
  | .groupUnclosed => "unclosed group"
  | .groupUnopened => "unopened group"
  | .groupNameEmpty => "empty capture group name"
  | .groupNameInvalid => "invalid capture group character"
  | .groupNameUnclosed => "unclosed capture group name"
  | .groupNameDuplicate => "duplicate capture group name"
  | .lookAround => "look-around, including look-ahead and look-behind, is not supported"
  | .backreference => "backreferences are not supported"
  | .repetitionMissing => "repetition operator missing expression"
  | .repetitionUnclosed => "unclosed counted repetition"
  | .repetitionCountEmpty => "repetition quantifier expects a valid decimal"
  | .repetitionCountInvalid => "invalid repetition count range, the start must be <= the end"
  | .countTooLarge => "decimal literal invalid"
  | .flagUnrecognized => "unrecognized flag"
  | .flagDuplicate => "duplicate flag"
  | .flagNegationRepeated => "flag negation operator repeated"
  | .flagNegationDangling => "dangling flag negation operator"
  | .flagUnexpectedEnd => "expected flag but got end of regex"
  | .classUnclosed => "unclosed character class"
  | .classRangeInvalid => "invalid character class range, the start must be <= the end"
  | .classRangeBoundary => "invalid range boundary, must be a literal"
  | .classEscapeInvalid => "invalid escape sequence found in character class"
  | .escapeUnrecognized => "unrecognized escape sequence"
  | .escapeUnexpectedEnd => "incomplete escape sequence, reached end of pattern prematurely"
  | .hexEmpty => "hexadecimal literal empty"
  | .hexDigitInvalid => "invalid hexadecimal digit"
  | .hexNotScalar => "hexadecimal literal is not a Unicode scalar value"
  | .propertyLetterInvalid => "invalid Unicode character class"
  | .boundaryUnclosed =>
    "special word boundary assertion is either unclosed or contains an invalid character"
  | .boundaryUnrecognized =>
    "unrecognized special word boundary assertion, valid choices are: start, end, start-half or end-half"
  | .boundaryUnexpectedEnd =>
    "found either the beginning of a special word boundary or a bounded repetition on a \\b with an "
      ++ "opening brace, but no closing brace"
  | .nestingTooDeep => "exceed the maximum number of nested parentheses/brackets (250)"
  | .unicodeNotAllowed => "Unicode not allowed here"
  | .invalidUtf8 => "pattern can match invalid UTF-8"
  | .propertyNotFound => "Unicode property not found"
  | .propertyValueNotFound => "Unicode property value not found"

/-- A fault of a written pattern, where it lies, and the earlier part that it clashes with. -/
structure SyntaxError where
  cause : SyntaxCause
  span : Span
  related : Option Span := none
deriving DecidableEq, Repr

/-- Why a pattern is refused. -/
inductive Error
  | malformed (pattern : Text) (e : SyntaxError)
  | tooLarge
deriving DecidableEq, Repr

/-! ## The message -/

/-- A place in a pattern by line and column, both counted from one. -/
structure Place where
  line : Nat
  column : Nat
deriving DecidableEq, Repr

/-- The line and column of the character at position `pos`. -/
def placeOf (pattern : Text) (pos : Nat) : Place :=
  (pattern.take pos).foldl
    (fun p c => if c = '\n' then ⟨p.line + 1, 1⟩ else ⟨p.line, p.column + 1⟩) ⟨1, 1⟩

/-- The lines of a pattern without their line ends. A line end at the end begins no further line. -/
def linesOf (pattern : Text) : List Text :=
  let segments := segments '\n' pattern
  let ended := segments.dropLast.map fun l => if l.getLast? = some '\r' then l.dropLast else l
  let last := segments.getLastD []
  if last = [] then ended else ended ++ [last]

/-- `n` copies of a character. -/
def repeated (n : Nat) (c : Char) : Text := List.replicate n c

/-- The line under a pattern line: blanks, then for each span as many carets as it has columns, at least
one. The spans are in the order of their columns. -/
def caretLine (indent : Nat) (spans : List (Nat × Nat)) : Text :=
  let start : Text × Nat := (repeated indent ' ', 1)
  (spans.foldl (fun (line, column) (first, last) =>
    let width := max 1 (last - first)
    (line ++ repeated (first - column) ' ' ++ repeated width '^', max column first + width)) start).1

/-- The message about a malformed pattern. A pattern of one line is indented; the lines of a longer one are
numbered between two rules, and a span that crosses a line end is given in words instead of carets. -/
def SyntaxError.render (pattern : Text) (e : SyntaxError) : Text :=
  let spans := (e.related.toList ++ [e.span]).map fun s => (placeOf pattern s.start, placeOf pattern s.stop)
  let within := spans.filter fun (a, b) => a.line = b.line
  let across := spans.filter fun (a, b) => a.line ≠ b.line
  let reason := "error: ".toList ++ e.cause.message.toList
  let lines := linesOf pattern
  let count := (pattern.filter (· = '\n')).length + 1
  let carets := fun (indent line : Nat) =>
    let here := (within.filter fun (a, _) => a.line = line).map fun (a, b) => (a.column, b.column)
    if here = [] then [] else [caretLine indent (here.mergeSort fun a b => a.1 ≤ b.1)]
  if count ≤ 1 then
    "regex parse error:\n    ".toList ++ pattern ++ ['\n'] ++ (carets 4 1).flatMap (· ++ ['\n']) ++ reason
  else
    let rule := repeated 79 '~'
    let width := (Text.ofNat count).length
    let shown := (lines.zipIdx 1).flatMap fun (l, n) =>
      let number := Text.ofNat n
      (repeated (width - number.length) ' ' ++ number ++ [':', ' '] ++ l) :: carets (width + 2) n
    let crossing := across.map fun (a, b) =>
      "on line ".toList ++ Text.ofNat a.line ++ " (column ".toList ++ Text.ofNat a.column
        ++ ") through line ".toList ++ Text.ofNat b.line ++ " (column ".toList
        ++ Text.ofNat (b.column - 1) ++ [')']
    Text.joinWith ['\n'] (["regex parse error:".toList, rule] ++ shown ++ [rule] ++ crossing ++ [reason])

/-- The message about a refused pattern. -/
def Error.message : Error → Text
  | .malformed pattern e => e.render pattern
  | .tooLarge => "Compiled regex exceeds size limit of 10485760 bytes.".toList

end MarkerAudit.Pattern
