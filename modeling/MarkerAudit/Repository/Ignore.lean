import MarkerAudit.Ascii
import MarkerAudit.FileTree.Basic
import MarkerAudit.Repository.Config
import MarkerAudit.Repository.Glob

/-!
# Ignore files

Rules for paths that are left alone unless they are tracked. The last rule of a file that matches a path decides,
and of several files the deepest one with a rule that matches.
-/

namespace MarkerAudit

open Ascii

/-- A rule of an ignore file. -/
structure IgnoreRule where
  pattern : Bytes
  negated : Bool := false
  directoryOnly : Bool := false
  ofPath : Bool := false
  hasWildcard : Bool := false
deriving DecidableEq, Repr

/-- The rules of a file, in order, with the location that they are for. -/
structure IgnoreFile where
  base : Location
  rules : List IgnoreRule
deriving Repr

namespace IgnoreRule

/-! ## Reading -/

/-- How a pattern is written: the bytes up to its end, whether one is a wildcard, and what is behind the end. It
ends at a line end, unless a backslash stands before that. -/
def scan : (escaped : Bool) → Bytes → Bytes × Bool × Bytes
  | _, [] => ([], false, [])
  | escaped, b :: rest =>
    if b = backslash && !escaped then
      let (t, wild, behind) := scan true rest
      (b :: t, wild, behind)
    else if 10 ≤ b && b ≤ 12 && !escaped then ([], false, b :: rest)
    else
      let (t, wild, behind) := scan false rest
      (b :: t, wild || !escaped && (b = asterisk || b = questionMark || b = openBracket), behind)

/-- The reversed text without the blanks at its front, but for one with an odd number of backslashes behind. -/
def dropBlanksReversed : Bytes → Bytes
  | [] => []
  | b :: rest =>
    if (b = blank || b = tab) && (rest.takeWhile (· = backslash)).length % 2 = 0 then dropBlanksReversed rest
    else b :: rest

/-- The text without backslashes before blanks. -/
def unescapeBlanks : Bytes → Bytes
  | [] => []
  | [backslash] => []
  | backslash :: b :: rest =>
    if Config.isBlank b then b :: unescapeBlanks rest else backslash :: b :: unescapeBlanks rest
  | b :: rest => b :: unescapeBlanks rest

/-- Reads the rule at the start of a text that is not at a line end or a comment, if there is one, and gives what
is behind it. -/
def read (t : Bytes) : Option IgnoreRule × Bytes :=
  let (negated, t) := match t with
    | exclamationMark :: t => (true, t)
    | t => (false, t)
  let (written, hasWildcard, behind) := scan false t
  let slashes := written.count slash
  let body := (dropPrefix? written [slash]).getD written
  let ended := if body.getLast? = some carriageReturn then body.dropLast else body
  let trimmed := (dropBlanksReversed ended.reverse).reverse
  let directoryOnly := trimmed.getLast? = some slash
  let inner := if directoryOnly then trimmed.dropLast else trimmed
  let rule : IgnoreRule :=
    { pattern := unescapeBlanks inner, negated, directoryOnly, hasWildcard
      ofPath := 0 < (if directoryOnly then slashes - 1 else slashes) }
  (if trimmed.isEmpty then none else some rule, behind)

/-! ## Matching -/

/-- Whether a rule for the location `base` matches a location. A rule without a slash is about the name alone. -/
def isMatch (base : Location) (r : IgnoreRule) (l : Location) (isDirectory : Bool) : Bool :=
  (isDirectory || !r.directoryOnly) && base.isPrefixOf l &&
    (Glob.ofBytes r.ofPath r.pattern).isMatch
      (if r.ofPath then Location.path (l.drop base.length) else l.getLastD [])

/-- Whether one of two patterns without wildcards names what the other names. -/
def namesSame (p q : Bytes) : Bool :=
  let tail := fun (short long : Bytes) => !short.contains slash && (slash :: short).isSuffixOf long
  p = q || tail p q || tail q p

/-- Whether a negated rule without wildcards takes back something that a rule before it says. -/
def takesBack (base : Location) (negated earlier : IgnoreRule) : Bool :=
  let below := fun (t : Bytes) => base.flatMap (· ++ [slash]) ++ t
  if earlier.hasWildcard then
    (Glob.ofBytes earlier.ofPath (below earlier.pattern)).isMatch (below negated.pattern)
  else !earlier.negated && namesSame earlier.pattern negated.pattern

/-- The rules with one more behind them. A negated rule without wildcards is kept only if it takes something
back. -/
def add (base : Location) (rules : List IgnoreRule) (r : IgnoreRule) : List IgnoreRule :=
  if r.negated && !r.hasWildcard && !rules.any (takesBack base r) then rules else rules ++ [r]

end IgnoreRule

namespace IgnoreFile

/-- Reads rules, at most `fuel` of them, behind the ones that have been read. -/
def readFrom (base : Location) : (fuel : Nat) → List IgnoreRule → Bytes → List IgnoreRule
  | 0, rules, _ => rules
  | fuel + 1, rules, t =>
    let nextLine := fun (t : Bytes) =>
      (t.dropWhile (· ≠ lineFeed)).dropWhile fun b => b = lineFeed || b = carriageReturn
    match t with
    | [] => rules
    | numberSign :: _ => readFrom base fuel rules (nextLine t)
    | lineFeed :: _ => readFrom base fuel rules (nextLine t)
    | carriageReturn :: lineFeed :: _ => readFrom base fuel rules (nextLine t)
    | t =>
      match IgnoreRule.read t with
      | (none, behind) => readFrom base fuel rules (nextLine behind)
      | (some r, behind) => readFrom base fuel (IgnoreRule.add base rules r) (nextLine behind)

/-- The rules that a file holds, for the location that the file stands in. -/
def ofContent (base : Location) (content : Bytes) : IgnoreFile :=
  let t := (Config.dropMark content).takeWhile (· ≠ 0)
  ⟨base, readFrom base (t.length + 1) [] t⟩

/-- What the last rule that matches says: whether the location is ignored. -/
def decide? (f : IgnoreFile) (l : Location) (isDirectory : Bool) : Option Bool :=
  (f.rules.reverse.find? fun r => r.isMatch f.base l isDirectory).map (!·.negated)

end IgnoreFile

/-- What ignore files say about a location. The first file with a rule that matches decides. -/
def isIgnored? (files : List IgnoreFile) (l : Location) (isDirectory : Bool) : Option Bool :=
  files.findSome? fun f => f.decide? l isDirectory

end MarkerAudit
