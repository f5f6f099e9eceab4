import MarkerAudit.Pattern.ClassReader
import MarkerAudit.Unicode.Category

/-!
# Reading patterns

Reads a pattern from left to right into its tree. Open groups are kept on a stack, so that nesting needs no
recursion; a tree that turns out too deep is refused at the end. The first fault from the left is the one
that is reported.
-/

namespace MarkerAudit.Pattern

/-! ## Counted repetition -/

/-- The greatest count. -/
def maxCount : Nat := 4294967295

/-- Reads digits with what may be skipped between them, last first. -/
def readDigits : (fuel : Nat) → Cursor → (digits : List Nat) → List Nat × Cursor
  | 0, c, digits => (digits, c)
  | fuel + 1, c, digits =>
    match c.rest with
    | [] => (digits, c)
    | d :: _ => if d.isDigit then readDigits fuel c.next ((d.toNat - 48) :: digits) else (digits, c)

/-- Reads a count. A count that is missing or too great is a fault of its own, which the caller may report
later than other faults; the cursor is behind the count in any case. -/
def readCount (c : Cursor) : Except SyntaxError Nat × Cursor :=
  let (rest, pos) := Cursor.skipSpace c.pos c.rest
  let first : Cursor := { c with rest, pos }
  let (digits, last) := readDigits first.rest.length first []
  let (rest, pos) := Cursor.skipSpace last.pos last.rest
  let after : Cursor := ({ last with rest, pos } : Cursor).skipBlanks
  let value := digits.reverse.foldl (fun n d => 10 * n + d) 0
  let count :=
    if digits.isEmpty then refuse .repetitionCountEmpty (last.spanFrom first.pos)
    else if value > maxCount then refuse .countTooLarge (last.spanFrom first.pos)
    else .ok value
  (count, after)

/-- Reads the counts between braces; the cursor stands behind the opening brace, which is at `start`, and is
left at the closing one. -/
def readCounts (start : Nat) (c : Cursor) : Except SyntaxError ((Nat × Option Nat) × Cursor) :=
  let (least, c) := readCount c
  match c.rest with
  | [] => refuse .repetitionUnclosed (c.spanFrom start)
  | ',' :: _ =>
    let c := c.next
    match c.rest with
    | [] => refuse .repetitionUnclosed (c.spanFrom start)
    | '\x7d' :: _ =>
      match least with
      | .error e => .error e
      | .ok least => .ok ((least, none), c)
    | _ =>
      match least with
      | .error e => .error e
      | .ok least =>
        match readCount c with
        | (.error e, _) => .error e
        | (.ok most, c) => .ok ((least, some most), c)
  | _ =>
    match least with
    | .error e => .error e
    | .ok least => .ok ((least, some least), c)

/-! ## Groups -/

/-- The flag of a letter. -/
def flagOf? : Char → Option Flag
  | 'i' => some .caseInsensitive
  | 'm' => some .multiLine
  | 's' => some .dotMatchesNewLine
  | 'U' => some .swapGreed
  | 'u' => some .unicode
  | 'R' => some .crlf
  | 'x' => some .ignoreBlanks
  | _ => none

/-- The flags read so far with their spans, last first, and the dash that switches off. -/
structure FlagsRead where
  seen : List (Flag × Bool × Span)
  dash : Option Span
  dashIsLast : Bool

/-- Reads flags up to `:` or `)`, where the cursor is left. -/
def readFlags : (fuel : Nat) → FlagsRead → Cursor → Except SyntaxError (FlagChanges × Cursor)
  | 0, _, c => refuse .flagUnexpectedEnd c.here
  | fuel + 1, r, c =>
    match c.rest with
    | [] => refuse .flagUnexpectedEnd c.here
    | d :: _ =>
      if d = ':' ∨ d = ')' then
        match r.dashIsLast, r.dash with
        | true, some dash => refuse .flagNegationDangling dash
        | _, _ => .ok (r.seen.reverse.map fun (f, on, _) => (f, on), c)
      else if d = '-' then
        match r.dash with
        | some dash => refuse .flagNegationRepeated c.charSpan (some dash)
        | none => readFlags fuel { r with dash := some c.charSpan, dashIsLast := true } c.advance
      else match flagOf? d with
        | none => refuse .flagUnrecognized c.charSpan
        | some f =>
          match r.seen.find? fun (g, _, _) => g = f with
          | some (_, _, first) => refuse .flagDuplicate c.charSpan (some first)
          | none =>
            let seen := (f, r.dash.isNone, c.charSpan) :: r.seen
            readFlags fuel { r with seen, dashIsLast := false } c.advance

/-- Letters, digits and other numbers. -/
def nameCharacters : CharSet :=
  .unions [Unicode.Property.alphabetic, Unicode.Category.decimalNumber, Unicode.Category.letterNumber,
    Unicode.Category.otherNumber]

/-- Whether the character may stand in the name of a group. What ASCII has of them is told without a table. -/
def isNameChar (first : Bool) (c : Char) : Bool :=
  if first then c = '_' || c.isAlpha || Unicode.Property.alphabetic.contains c
  else c = '_' || c = '.' || c = '[' || c = ']' || c.isAlphanum || nameCharacters.contains c

/-- Reads the name of a group, which begins at `start`, up to `>`, where the cursor is left. -/
def readName : (fuel : Nat) → (start : Nat) → (name : Text) → Cursor → Except SyntaxError (Text × Cursor)
  | 0, _, _, c => refuse .groupNameUnclosed c.here
  | fuel + 1, start, name, c =>
    match c.rest with
    | [] => refuse .groupNameUnclosed c.here
    | d :: _ =>
      if d = '>' then .ok (name.reverse, c)
      else if isNameChar (c.pos = start) d then readName fuel start (d :: name) c.advance
      else refuse .groupNameInvalid c.charSpan

/-- What an opening parenthesis begins. -/
inductive Opening
  | group (kind : GroupKind)
  | named (name : Text) (span : Span)
  | flags (changes : FlagChanges)

/-- Reads what follows an opening parenthesis at `start`, up to where the group's pattern begins. -/
def readGroupOpening (start : Nat) (c : Cursor) : Except SyntaxError (Opening × Cursor) :=
  let c := c.next
  let inner := c.here
  match ["?=", "?!", "?<=", "?<!"].find? c.startsWith with
  | some look => refuse .lookAround ((c.advanceBy look.length).spanFrom start)
  | none =>
    if c.startsWith "?P<" || c.startsWith "?<" then
      let c := c.advanceBy (if c.startsWith "?P<" then 3 else 2)
      match readName (c.rest.length + 1) c.pos [] c with
      | .error e => .error e
      | .ok (name, close) =>
        if name.isEmpty then refuse .groupNameEmpty c.here
        else .ok (.named name (close.spanFrom c.pos), close.advance)
    else if c.startsWith "?" then
      let c := c.advance
      if c.rest.isEmpty then refuse .groupUnclosed ⟨start, start + 1⟩
      else match readFlags (c.rest.length + 1) ⟨[], none, false⟩ c with
        | .error e => .error e
        | .ok (changes, close) =>
          if close.startsWith ")" then
            if changes.isEmpty then refuse .repetitionMissing inner
            else .ok (.flags changes, close.advance)
          else .ok (.group (.plain changes), close.advance)
    else .ok (.group .capture, c)

/-! ## The pattern -/

/-- What has been read of one group, or of the whole pattern: finished branches and the items of the current
one, both last first, with the positions where the first branch and the current one begin. -/
structure Level where
  branches : List Ast
  first : Nat
  items : List Ast
  start : Nat
deriving Repr, Inhabited

namespace Level

/-- A level that begins at a position. -/
def begin (pos : Nat) : Level := ⟨[], pos, [], pos⟩

/-- Adds an item to the current branch. -/
def push (l : Level) (a : Ast) : Level := { l with items := a :: l.items }

/-- The current branch, which ends at `stop`. -/
def branch (l : Level) (stop : Nat) : Ast :=
  match l.items with
  | [] => .empty ⟨l.start, stop⟩
  | [a] => a
  | items => .concat ⟨l.start, stop⟩ items.reverse

/-- Ends the current branch at `stop` and begins the next one at `next`. -/
def nextBranch (l : Level) (stop next : Nat) : Level :=
  ⟨l.branch stop :: l.branches, l.first, [], next⟩

/-- Everything on the level, which ends at `stop`. -/
def close (l : Level) (stop : Nat) : Ast :=
  match l.branches with
  | [] => l.branch stop
  | branches => .alternation ⟨l.first, stop⟩ (l.branch stop :: branches).reverse

end Level

/-- A group that has been opened at `start`, with the level around it. -/
structure OpenGroup where
  start : Nat
  kind : GroupKind
  outer : Level
  ignoreBlanks : Bool
deriving Repr

/-- What has been read of a pattern. -/
structure ReadState where
  level : Level
  enclosing : List OpenGroup
  names : List (Text × Span)
deriving Repr

/-- Adds an item to the current branch. -/
def ReadState.push (s : ReadState) (a : Ast) : ReadState := { s with level := s.level.push a }

/-- Repeats the last item; the operator begins at `start` and is read up to the cursor. -/
def ReadState.repeatLast (s : ReadState) (start : Nat) (least : Nat) (most : Option Nat) (greed : Greed) (c : Cursor) :
    Except SyntaxError (ReadState × Cursor) :=
  match s.level.items with
  | [] | .empty _ :: _ | .flags _ _ :: _ => refuse .repetitionMissing ⟨start, start⟩
  | a :: items =>
    let repeated := Ast.repetition ⟨a.span.start, c.pos⟩ least most greed a
    .ok ({ s with level := { s.level with items := repeated :: items } }, c)

/-- Whether the last item may be repeated. -/
def ReadState.hasOperand (s : ReadState) : Bool :=
  match s.level.items with
  | [] | .empty _ :: _ | .flags _ _ :: _ => false
  | _ => true

/-- Reads the `?` that makes an operator lazy, if it is there. -/
def readGreed (c : Cursor) : Greed × Cursor :=
  if c.startsWith "?" then (.lazy, c.advance) else (.greedy, c)

/-- Reads one of `?`, `*` and `+`, and a `?` behind it. -/
def readOperator (s : ReadState) (least : Nat) (most : Option Nat) (c : Cursor) :
    Except SyntaxError (ReadState × Cursor) :=
  let (greed, after) := readGreed c.advance
  s.repeatLast c.pos least most greed after

/-- Reads a counted repetition; the cursor stands at its opening brace. -/
def readCounted (s : ReadState) (c : Cursor) : Except SyntaxError (ReadState × Cursor) :=
  let start := c.pos
  if !s.hasOperand then refuse .repetitionMissing c.here
  else
    let c := c.next
    if c.rest.isEmpty then refuse .repetitionUnclosed (c.spanFrom start)
    else match readCounts start c with
      | .error e => .error e
      | .ok ((least, most), c) =>
        if c.startsWith "\x7d" then
          let (greed, after) := readGreed c.next
          match most with
          | some m =>
            if least ≤ m then s.repeatLast start least most greed after
            else refuse .repetitionCountInvalid (after.spanFrom start)
          | none => s.repeatLast start least most greed after
        else refuse .repetitionUnclosed (c.spanFrom start)

/-- Opens a group or switches flags; the cursor stands at the opening parenthesis. -/
def readOpeningParen (s : ReadState) (c : Cursor) : Except SyntaxError (ReadState × Cursor) :=
  let start := c.pos
  let enter := fun (kind : GroupKind) (names : List (Text × Span)) (blanks : Bool) (after : Cursor) =>
    ({ level := .begin after.pos
       enclosing := ⟨start, kind, s.level, c.ignoreBlanks⟩ :: s.enclosing
       names := names : ReadState }, { after with ignoreBlanks := blanks })
  match readGroupOpening start c with
  | .error e => .error e
  | .ok (.flags changes, after) =>
    let blanks := (changes.setting? .ignoreBlanks).getD c.ignoreBlanks
    .ok (s.push (.flags (after.spanFrom start) changes), { after with ignoreBlanks := blanks })
  | .ok (.named name span, after) =>
    match s.names.find? fun (n, _) => n = name with
    | some (_, first) => refuse .groupNameDuplicate span (some first)
    | none => .ok (enter .capture ((name, span) :: s.names) c.ignoreBlanks after)
  | .ok (.group kind, after) =>
    let blanks := match kind with
      | .capture => c.ignoreBlanks
      | .plain changes => (changes.setting? .ignoreBlanks).getD c.ignoreBlanks
    .ok (enter kind s.names blanks after)

/-- Closes the innermost group; the cursor stands at the closing parenthesis. -/
def readClosingParen (s : ReadState) (c : Cursor) : Except SyntaxError (ReadState × Cursor) :=
  match s.enclosing with
  | [] => refuse .groupUnopened c.charSpan
  | g :: enclosing =>
    let after := { c.advance with ignoreBlanks := g.ignoreBlanks }
    let group := Ast.group (after.spanFrom g.start) g.kind (s.level.close c.pos)
    .ok ({ s with level := g.outer.push group, enclosing }, after)

/-- Reads one construct, which begins with `d` at the cursor. -/
def readConstruct (s : ReadState) (d : Char) (c : Cursor) : Except SyntaxError (ReadState × Cursor) :=
  if d = '(' then readOpeningParen s c
  else if d = ')' then readClosingParen s c
  else if d = '|' then
    let after := c.advance
    .ok ({ s with level := s.level.nextBranch c.pos after.pos }, after)
  else if d = '[' then
    match readClass c with
    | .error e => .error e
    | .ok (cls, after) => .ok (s.push cls, after)
  else if d = '?' then readOperator s 0 (some 1) c
  else if d = '*' then readOperator s 0 none c
  else if d = '+' then readOperator s 1 none c
  else if d = '\x7b' then readCounted s c
  else match readPrimitive d c with
    | .error e => .error e
    | .ok (p, after) => .ok (s.push p.toAst, after)

/-- The whole pattern, once the end is reached with every group closed. -/
def ReadState.finish (s : ReadState) (stop : Nat) : Except SyntaxError Ast :=
  match s.enclosing with
  | g :: _ => refuse .groupUnclosed ⟨g.start, g.start + 1⟩
  | [] => .ok (s.level.close stop)

/-- Reads constructs until the end of the pattern. -/
def readAll : (fuel : Nat) → ReadState → Cursor → Except SyntaxError Ast
  | 0, s, c => s.finish c.pos
  | fuel + 1, s, c =>
    let c := c.skipBlanks
    match c.rest with
    | [] => s.finish c.pos
    | d :: _ =>
      match readConstruct s d c with
      | .error e => .error e
      | .ok (s, c) => readAll fuel s c

/-- The tree of a written pattern. -/
def Ast.ofText (pattern : Text) : Except SyntaxError Ast :=
  match readAll (pattern.length + 1) ⟨.begin 0, [], []⟩ (.ofText pattern) with
  | .error e => .error e
  | .ok a =>
    match a.tooDeep? nestLimit with
    | some span => refuse .nestingTooDeep span
    | none => .ok a

end MarkerAudit.Pattern
