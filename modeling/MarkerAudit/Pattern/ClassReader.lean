import MarkerAudit.Pattern.Escape

/-!
# Bracketed classes

Reads `[...]` with nested classes, ranges, `[:name:]` and the set operators `&&`, `--` and `~~`, which bind
equally and to the left. Open classes are kept on a stack, so that nesting needs no recursion.
-/

namespace MarkerAudit.Pattern

/-- A class that has been opened: the span of its opening, the operand and operator that wait for what
follows, and the items read since, last first, with the span they cover. -/
structure OpenClass where
  opening : Span
  negated : Bool
  pending : Option (SetOperator × ClassAst)
  items : List ClassAst
  covered : Span
deriving Repr, Inhabited

namespace OpenClass

/-- Adds an item. -/
def push (o : OpenClass) (item : ClassAst) : OpenClass :=
  let first := if o.items.isEmpty then item.span.start else o.covered.start
  { o with items := item :: o.items, covered := ⟨first, item.span.stop⟩ }

/-- The items since the last operator as one class. -/
def operand (o : OpenClass) : ClassAst :=
  match o.items with
  | [] => .empty o.covered
  | [item] => item
  | items => .union o.covered items.reverse

/-- Everything between the brackets as one class. -/
def body (o : OpenClass) : ClassAst :=
  match o.pending with
  | none => o.operand
  | some (op, left) => .binary ⟨left.span.start, o.operand.span.stop⟩ op left o.operand

/-- Puts an operator behind what has been read; `after` is where the next operand begins. -/
def pushOperator (o : OpenClass) (op : SetOperator) (after : Span) : OpenClass :=
  { o with pending := some (op, o.body), items := [], covered := after }

end OpenClass

/-- The names of classes between `[:` and `:]`. -/
def asciiClassNamed? (name : Text) : Option AsciiClass :=
  (table.find? fun (n, _) => n.toList = name).map Prod.snd
where
  table : List (String × AsciiClass) := [
    ("alnum", .alnum), ("alpha", .alpha), ("ascii", .ascii), ("blank", .blank), ("cntrl", .cntrl),
    ("digit", .digit), ("graph", .graph), ("lower", .lower), ("print", .print), ("punct", .punct),
    ("space", .space), ("upper", .upper), ("word", .word), ("xdigit", .xdigit)]

/-- Reads `[:name:]` or `[:^name:]`, if that is what stands at the cursor. -/
def readAsciiClass? (c : Cursor) : Option (ClassAst × Cursor) :=
  match c.rest with
  | '[' :: ':' :: r =>
    let negated := r.head? = some '^'
    let r := if negated then r.drop 1 else r
    let name := r.takeWhile (· ≠ ':')
    match r.drop name.length, asciiClassNamed? name with
    | ':' :: ']' :: _, some cls =>
      let after := c.advanceBy ((if negated then 3 else 2) + name.length + 2)
      some (.ascii (after.spanFrom c.pos) negated cls, after)
    | _, _ => none
  | _ => none

/-- Reads leading dashes of a class as literals. A class that ends there is unclosed at `start`. -/
def readDashes : (fuel : Nat) → (start : Nat) → OpenClass → Cursor →
    Except SyntaxError (OpenClass × Cursor)
  | 0, _, o, c => .ok (o, c)
  | fuel + 1, start, o, c =>
    if c.startsWith "-" then
      let o := o.push (.literal { span := c.charSpan, char := '-' })
      let c := c.next
      if c.rest = [] then refuse .classUnclosed ⟨start, start⟩
      else readDashes fuel start o c
    else .ok (o, c)

/-- Reads `[`, `^`, and what is literal only at the start: dashes, or else a closing bracket. -/
def readOpening (c : Cursor) : Except SyntaxError (OpenClass × Cursor) :=
  let start := c.pos
  let c := c.next
  if c.rest = [] then refuse .classUnclosed (c.spanFrom start)
  else
    let negated := c.startsWith "^"
    let c := if negated then c.next else c
    if c.rest = [] then refuse .classUnclosed (c.spanFrom start)
    else
      let o : OpenClass := { opening := c.here, negated, pending := none, items := [], covered := c.here }
      match readDashes c.rest.length start o c with
      | .error e => .error e
      | .ok (o, c) =>
        let bracket := o.items.isEmpty && c.startsWith "]"
        let o := if bracket then o.push (.literal { span := c.charSpan, char := ']' }) else o
        let c := if bracket then c.next else c
        if c.rest = [] then refuse .classUnclosed (c.spanFrom start)
        else .ok ({ o with opening := c.spanFrom start }, c)

/-- The primitive as an item of a class. -/
def Primitive.toItem : Primitive → Except SyntaxError ClassAst
  | .literal l => .ok (.literal l)
  | .letter s negated name => .ok (.letter s negated name)
  | .property s negated query => .ok (.property s negated query)
  | .dot s | .anchor s _ => refuse .classEscapeInvalid s

/-- The primitive as a boundary of a range. -/
def Primitive.toBoundary : Primitive → Except SyntaxError Literal
  | .literal l => .ok l
  | p => refuse .classRangeBoundary p.span

/-- Reads one character or escape of a class. -/
def readClassPrimitive (d : Char) (c : Cursor) : Except SyntaxError (Primitive × Cursor) :=
  if d = '\\' then readEscape c else .ok (.literal { span := c.charSpan, char := d }, c.advance)

/-- Reads an item or a range; `opening` is where the class is unclosed if the pattern ends here. -/
def readItem (opening : Span) (d : Char) (c : Cursor) : Except SyntaxError (ClassAst × Cursor) :=
  match readClassPrimitive d c with
  | .error e => .error e
  | .ok (first, c) =>
    let c := c.skipBlanks
    if c.rest = [] then refuse .classUnclosed opening
    else if !c.startsWith "-" || c.peekBehind? = some ']' || c.peekBehind? = some '-' then
      match first.toItem with
      | .error e => .error e
      | .ok item => .ok (item, c)
    else
      let c := c.next
      match c.rest with
      | [] => refuse .classUnclosed opening
      | d :: _ =>
        match readClassPrimitive d c with
        | .error e => .error e
        | .ok (last, c) =>
          let span : Span := ⟨first.span.start, last.span.stop⟩
          match first.toBoundary, last.toBoundary with
          | .error e, _ => .error e
          | _, .error e => .error e
          | .ok lo, .ok hi =>
            if lo.char ≤ hi.char then .ok (.range span lo hi, c) else refuse .classRangeInvalid span

/-- Reads on in the innermost open class until the outermost one is closed. -/
def readClassBody : (fuel : Nat) → OpenClass → (outer : List OpenClass) → Cursor →
    Except SyntaxError (Ast × Cursor)
  | 0, o, _, _ => refuse .classUnclosed o.opening
  | fuel + 1, o, outer, c =>
    let c := c.skipBlanks
    match c.rest with
    | [] => refuse .classUnclosed o.opening
    | '[' :: _ =>
      match readAsciiClass? c with
      | some (item, c) => readClassBody fuel (o.push item) outer c
      | none =>
        match readOpening c with
        | .error e => .error e
        | .ok (inner, c) => readClassBody fuel inner (o :: outer) c
    | ']' :: _ =>
      let c := c.advance
      let span := c.spanFrom o.opening.start
      match outer with
      | [] => .ok (.bracketed span o.negated o.body, c)
      | next :: outer => readClassBody fuel (next.push (.bracketed span o.negated o.body)) outer c
    | '&' :: '&' :: _ =>
      let c := c.advanceBy 2
      readClassBody fuel (o.pushOperator .intersection c.here) outer c
    | '-' :: '-' :: _ =>
      let c := c.advanceBy 2
      readClassBody fuel (o.pushOperator .difference c.here) outer c
    | '~' :: '~' :: _ =>
      let c := c.advanceBy 2
      readClassBody fuel (o.pushOperator .symmetricDifference c.here) outer c
    | d :: _ =>
      match readItem o.opening d c with
      | .error e => .error e
      | .ok (item, c) => readClassBody fuel (o.push item) outer c

/-- Reads a bracketed class; the cursor stands at its opening bracket. -/
def readClass (c : Cursor) : Except SyntaxError (Ast × Cursor) :=
  match readOpening c with
  | .error e => .error e
  | .ok (o, c) => readClassBody (c.rest.length + 1) o [] c

end MarkerAudit.Pattern
