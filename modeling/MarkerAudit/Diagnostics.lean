import MarkerAudit.FileTree.Path
import MarkerAudit.Mode
import MarkerAudit.Utf8
import MarkerAudit.Unicode.Derived

/-!
# Diagnostics

What a run tells about its own steps, and the filter that decides which of it is told. A filter gives a level to
each part of the program: a step is told if the level of its part reaches that of the step.
-/

namespace MarkerAudit

/-! ## Levels and parts -/

/-- How much is told, from nothing to everything. -/
inductive Level
  | off
  | error
  | warn
  | info
  | debug
  | trace
deriving DecidableEq, Repr

namespace Level

/-- All levels, in ascending order. -/
def all : List Level := [.off, .error, .warn, .info, .debug, .trace]

/-- The word for a level. -/
def word : Level → Text
  | .off => "off".toList
  | .error => "error".toList
  | .warn => "warn".toList
  | .info => "info".toList
  | .debug => "debug".toList
  | .trace => "trace".toList

/-- The place of a level among all. -/
def rank : Level → Nat
  | .off => 0
  | .error => 1
  | .warn => 2
  | .info => 3
  | .debug => 4
  | .trace => 5

/-- The level that a text names: by its word in upper or lower case, or by its place in digits. -/
def ofText? (t : Text) : Option Level :=
  let byWord := all.find? fun l => l.word = t.map Char.toLower
  let digits := (dropPrefix? t ['+']).getD t
  let byPlace :=
    if digits.isEmpty || !digits.all Char.isDigit then none
    else all[digits.foldl (fun n c => 10 * n + (c.toNat - 48)) 0]?
  byPlace.or byWord

end Level

/-- The parts of the program that tell about steps. -/
inductive Part
  | main
  | candidates
  | audit
  | scan
deriving DecidableEq, Repr

/-- The name of a part in filters. -/
def Part.name : Part → Text
  | .main => "todocheck".toList
  | .candidates => "todocheck::enumerator".toList
  | .audit => "todocheck::check".toList
  | .scan => "todocheck::scanner".toList

/-! ## Filters -/

/-- The level of the parts whose names start with a text. -/
structure LevelRule where
  partName : Text
  level : Level
deriving DecidableEq, Repr

/-- Rules for levels, in the order that they are written in. -/
structure LevelFilter where
  rules : List LevelRule
deriving DecidableEq, Repr

namespace LevelFilter

/-- The rule that gives every part a level. -/
def uniform (l : Level) : LevelFilter := ⟨[⟨[], l⟩]⟩

/-- The text without blanks at its ends. -/
def trim (t : Text) : Text :=
  let drop := fun (t : Text) => t.dropWhile Unicode.Property.whiteSpace.contains
  (drop (drop t).reverse).reverse

/-- Whether a rule may start with a character. -/
def mayStart (c : Char) : Bool :=
  c = '-' || c = ':' || c = '_' || Unicode.Property.alphabetic.contains c
    || [Unicode.Category.decimalNumber, Unicode.Category.letterNumber, Unicode.Category.otherNumber].any
      (·.contains c)

/-- The level behind an equals sign: everything, if nothing is there. -/
def levelBehind? (t : Text) : Option Level :=
  if t.isEmpty then some .trace else Level.ofText? t

/-- The rule that a text stands for, if it is well-formed: a part and a level, or one of both. A rule for spans,
which is in brackets, holds for no part. -/
def readRule? (t : Text) : Option (Option LevelRule) :=
  match t with
  | [] => none
  | c :: _ =>
    let name := t.takeWhile fun c => c ≠ '=' && c ≠ '['
    if c ≠ '[' && !mayStart c then none
    else match t.drop name.length with
      | [] =>
        match Level.ofText? name with
        | some l => some (some ⟨[], l⟩)
        | none => some (some ⟨name, .trace⟩)
      | '=' :: level => (levelBehind? level).map fun l => some ⟨name, l⟩
      | _ :: span =>
        match span.dropWhile (· ≠ ']') with
        | _ :: '=' :: level => (levelBehind? level).map fun _ => none
        | [_] => some none
        | _ => none

/-- The filter that a text stands for, if it is well-formed. No rules at all let errors through. -/
def ofText? (t : Text) : Option LevelFilter :=
  let written := (segments ',' t).filter (· ≠ [])
  if written.isEmpty then some (uniform .error)
  else (written.mapM fun r => readRule? (trim r)).map fun rules => ⟨rules.filterMap id⟩

/-- The level of a part. Of the rules that hold for it the one with the longest name counts, and of several with
one name the last. -/
def levelOf (f : LevelFilter) (p : Part) : Level :=
  (f.rules.foldl (fun (best : Option LevelRule) r =>
    if r.partName.isPrefixOf p.name && best.all (·.partName.length ≤ r.partName.length) then some r else best)
    none).elim .off LevelRule.level

end LevelFilter

/-! ## Steps -/

/-- A step of a run that may be told. -/
inductive Step
  | settingsMade (markers : List Text) (name : Text)
  | modeChosen (requested resolved : SearchMode)
  | candidatesListed (count : Nat)
  | candidatesKept (count : Nat)
  | unreadableSkipped (path : Text) (e : PathError)
  | binarySkipped (path : Text)
  | scanned (files findings : Nat)
deriving DecidableEq, Repr

namespace Step

/-- The part of the program that a step belongs to. -/
def part : Step → Part
  | .settingsMade .. => .main
  | .modeChosen .. | .candidatesListed _ => .candidates
  | .candidatesKept _ => .audit
  | .unreadableSkipped .. | .binarySkipped _ | .scanned .. => .scan

/-- The level that a step is told at. -/
def level : Step → Level
  | .unreadableSkipped .. | .binarySkipped _ => .trace
  | _ => .debug

/-- Whether a filter lets a step through. -/
def isTold (f : LevelFilter) (s : Step) : Bool := s.level.rank ≤ (f.levelOf s.part).rank

/-- Whether a character stands for itself between quotes. -/
def isPlain (c : Char) : Bool :=
  Unicode.Property.graphemeBase.contains c && (c = ' ' || !Unicode.Category.spaceSeparator.contains c)

/-- A text between quotes, with escapes for what cannot be seen. -/
def quote (t : Text) : Text :=
  '"' :: t.flatMap (fun c =>
    if c = '"' || c = '\\' then ['\\', c]
    else if c = '\t' then ['\\', 't']
    else if c = '\r' then ['\\', 'r']
    else if c = '\n' then ['\\', 'n']
    else if c = '\x00' then ['\\', '0']
    else if isPlain c then [c]
    else ['\\', 'u', '\x7b'] ++ Nat.toDigits 16 c.toNat ++ ['\x7d']) ++ ['"']

/-- The name of a mode. -/
def modeName : SearchMode → Text
  | .git => "Git".toList
  | .find => "Find".toList
  | .auto => "Default".toList

/-- What is told about a step. -/
def text : Step → Text
  | .settingsMade markers name =>
    "configuration loaded keywords=[".toList ++ Text.joinWith ", ".toList (markers.map quote)
      ++ "] self_name=".toList ++ name
  | .modeChosen requested resolved =>
    "search mode requested=".toList ++ modeName requested ++ " resolved=".toList ++ modeName resolved
  | .candidatesListed count => "enumerated candidate files count=".toList ++ Text.ofNat count
  | .candidatesKept count => "files left after filtering count=".toList ++ Text.ofNat count
  | .unreadableSkipped path e =>
    "skipping unreadable file path=".toList ++ path ++ " error=".toList ++ e.message
  | .binarySkipped path => "skipping binary file path=".toList ++ path
  | .scanned files findings =>
    "scan complete files=".toList ++ Text.ofNat files ++ " matches=".toList ++ Text.ofNat findings

/-- A step as it is told, on a line of its own. -/
def render (s : Step) : Text := s.level.word.map Char.toUpper ++ ' ' :: s.text

end Step
end MarkerAudit
