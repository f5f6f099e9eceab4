import MarkerAudit.CharSet
import MarkerAudit.Pattern.Ast
import MarkerAudit.Unicode.Derived

/-!
# Expressions

What a pattern means once its flags and class names are resolved: a regular expression over atoms. The type
of atoms is a parameter, so that an expression can also be read over sets of positions of one text.
-/

namespace MarkerAudit.Pattern

/-- A regular expression over atoms. A run consumes its atoms one after another. -/
inductive Expr (α : Type)
  | empty
  | run (atoms : List α)
  | capture (body : Expr α)
  | repetition (least : Nat) (most : Option Nat) (greed : Greed) (body : Expr α)
  | seq (parts : List (Expr α))
  | alt (branches : List (Expr α))
deriving Repr, Inhabited

/-! ## Atoms -/

/-- The sides on which a word boundary asks for a word character or for none. -/
inductive WordEdge
  | boundary
  | notBoundary
  | wordStart
  | wordEnd
  | startHalf
  | endHalf
deriving DecidableEq, Repr

/-- A condition on a position. Word characters are those of Unicode, or of ASCII alone. -/
inductive Look
  | textStart
  | textEnd
  | lineStart
  | lineEnd
  | crlfLineStart
  | crlfLineEnd
  | word (unicode : Bool) (edge : WordEdge)
deriving DecidableEq, Repr

/-- What one step of a match needs: a certain character, a character of a set, or a condition on the
position, which consumes nothing. -/
inductive Atom
  | char (c : Char)
  | set (s : CharSet)
  | look (l : Look)
deriving DecidableEq, Repr

/-- Whether the atom consumes a character. -/
def Atom.consumes : Atom → Bool
  | .char _ | .set _ => true
  | .look _ => false

/-- The characters of words in ASCII. -/
def asciiWord : CharSet := ⟨[⟨48, 57⟩, ⟨65, 90⟩, ⟨95, 95⟩, ⟨97, 122⟩]⟩

/-- Whether the condition holds between the character before and the character behind, if there are any. -/
def Look.holds (l : Look) (before behind : Option Char) : Bool :=
  match l with
  | .textStart => before.isNone
  | .textEnd => behind.isNone
  | .lineStart => before.isNone || before = some '\n'
  | .lineEnd => behind.isNone || behind = some '\n'
  | .crlfLineStart => before.isNone || before = some '\n' || (before = some '\r' && behind ≠ some '\n')
  | .crlfLineEnd => behind.isNone || behind = some '\r' || (behind = some '\n' && before ≠ some '\r')
  | .word unicode edge =>
    let isWord := (if unicode then Unicode.Property.word else asciiWord).contains
    let left := before.any isWord
    let right := behind.any isWord
    match edge with
    | .boundary => left != right
    | .notBoundary => left == right
    | .wordStart => !left && right
    | .wordEnd => left && !right
    | .startHalf => !left
    | .endHalf => !right

namespace Expr

variable {α β : Type}

/-- The expression with every atom replaced. -/
def map (f : α → β) : Expr α → Expr β
  | .empty => .empty
  | .run atoms => .run (atoms.map f)
  | .capture body => .capture (body.map f)
  | .repetition least most greed body => .repetition least most greed (body.map f)
  | .seq parts => .seq (mapParts f parts []).reverse
  | .alt branches => .alt (mapParts f branches []).reverse
where
  /-- The parts with every atom replaced, put in reverse before `done`. -/
  mapParts (f : α → β) : List (Expr α) → List (Expr β) → List (Expr β)
    | [], done => done
    | e :: rest, done => mapParts f rest (e.map f :: done)

/-! ## Building -/

/-- Puts an expression before parts: an empty one vanishes, and a run joins a run. -/
def cons (e : Expr α) (parts : List (Expr α)) : List (Expr α) :=
  match e, parts with
  | .empty, _ => parts
  | .run atoms, .run more :: rest => .run (atoms ++ more) :: rest
  | _, _ => e :: parts

/-- One expression after another. -/
def concat (parts : List (Expr α)) : Expr α :=
  match parts.foldr cons [] with
  | [] => .empty
  | [e] => e
  | parts => .seq parts

/-- The branches of an alternative, or the expression as the only branch. -/
def branches : Expr α → List (Expr α)
  | .alt bs => bs
  | e => [e]

/-- The set of characters that an expression of one character stands for. -/
def charSet? : Expr Atom → Option CharSet
  | .run [.char c] => some (.single c)
  | .run [.set s] => some s
  | _ => none

/-- The atom that stands for a set. -/
def ofSet (s : CharSet) : Expr Atom :=
  match s.only? with
  | some c => .run [.char c]
  | none => .run [.set s]

/-- Alternatives: nested ones are joined, and alternatives of one character each become a set. -/
def alternation (es : List (Expr Atom)) : Expr Atom :=
  match es.flatMap branches with
  | [e] => e
  | es =>
    match es.mapM charSet? with
    | some sets => ofSet (.unions sets)
    | none => .alt es

/-- Whether every match of the expression is empty. -/
def onlyEmpty : Expr Atom → Bool
  | .empty => true
  | .run atoms => atoms.all fun a => !a.consumes
  | .capture body => body.onlyEmpty
  | .repetition _ most _ body => most = some 0 || body.onlyEmpty
  | .seq parts => allEmpty parts
  | .alt branches => allEmpty branches
where
  /-- Whether every match of every part is empty. -/
  allEmpty : List (Expr Atom) → Bool
    | [] => true
    | e :: rest => e.onlyEmpty && allEmpty rest

/-- A repetition. More than one round of what is always empty adds nothing, no round is the empty
expression, and exactly one round is the expression itself. -/
def repeated (least : Nat) (most : Option Nat) (greed : Greed) (e : Expr Atom) : Expr Atom :=
  let least := if e.onlyEmpty then min least 1 else least
  let most := if e.onlyEmpty then some (min (most.getD 1) 1) else most
  if most = some 0 then .empty
  else if least = 1 ∧ most = some 1 then e
  else .repetition least most greed e

end Expr
end MarkerAudit.Pattern
