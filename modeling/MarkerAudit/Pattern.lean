import MarkerAudit.Pattern.Reader
import MarkerAudit.Pattern.Elaborate
import MarkerAudit.Pattern.Size
import MarkerAudit.Pattern.Positions

/-!
# Patterns

A pattern is a regular expression that has been read, understood and found small enough. It is searched for
anywhere in a text.
-/

namespace MarkerAudit

/-- A regular expression with the text it was written as. -/
structure Pattern where
  source : Text
  expr : Pattern.Expr Pattern.Atom
deriving Repr

namespace Pattern

/-- The expression that a text means, whatever its size. -/
def parse (source : Text) : Except SyntaxError (Expr Atom) :=
  match Ast.ofText source with
  | .error e => .error e
  | .ok a =>
    match a.elaborate {} with
    | .error e => .error e
    | .ok (e, _) => .ok e

/-- The pattern written as a text, or why it is refused. -/
def ofText (source : Text) : Except Error Pattern :=
  match parse source with
  | .error e => .error (.malformed source e)
  | .ok e => if e.fits then .ok ⟨source, e⟩ else .error .tooLarge

/-- Whether the pattern matches anywhere in the text. -/
def isMatch (p : Pattern) (text : Text) : Bool :=
  p.expr.occursIn text

/-- The text with a backslash before every meta character, which as a pattern matches just the text. -/
def escape (t : Text) : Text :=
  t.flatMap fun c => if metaCharacters.contains c then ['\\', c] else [c]

end Pattern
end MarkerAudit
