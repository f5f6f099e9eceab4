import MarkerAudit.Ascii
import MarkerAudit.Text

/-!
# Configuration files

What a repository is set up as: sections of named values. Names are looked up in lower case; of several values
of one name the last counts.
-/

namespace MarkerAudit

open Ascii

/-- A value of a configuration. A name that stands alone has no value, which means that it is on. -/
structure ConfigEntry where
  name : Bytes
  value : Option Bytes
deriving DecidableEq, Repr

/-- The values of a configuration, in order, by their full names. -/
abbrev Config := List ConfigEntry

namespace Config

/-! ## Characters -/

/-- Whether a byte is a blank of any kind. -/
def isBlank (b : UInt8) : Bool := b = 32 || 9 ≤ b && b ≤ 13

/-- Whether a byte may stand in a name. -/
def isNameByte (b : UInt8) : Bool :=
  48 ≤ b && b ≤ 57 || 65 ≤ b && b ≤ 90 || 97 ≤ b && b ≤ 122 || b = 45

/-- The byte in lower case. -/
def lower (b : UInt8) : UInt8 := if 65 ≤ b && b ≤ 90 then b + 32 else b

/-- The bytes without blanks at the end. -/
def dropBlanksAtEnd (t : Bytes) : Bytes := (t.reverse.dropWhile isBlank).reverse

/-! ## Sections -/

/-- Reads the name of a subsection up to its closing quote, and what is behind that. -/
def readQuoted : Bytes → Option (Bytes × Bytes)
  | [] => none
  | quotationMark :: rest => some ([], rest)
  | [backslash] => none
  | backslash :: b :: rest => (readQuoted rest).map fun (name, rest) => (b :: name, rest)
  | b :: rest => (readQuoted rest).map fun (name, rest) => (b :: name, rest)

/-- Reads the line of a section behind its opening bracket: the section's name, and what is behind it. -/
def readSection (line : Bytes) : Option (Bytes × Bytes) :=
  let name := line.takeWhile fun b => isNameByte b || b = period
  let rest := line.drop name.length
  match rest with
  | closeBracket :: rest => if name.isEmpty then none else some (name.map lower, rest)
  | b :: _ =>
    if isBlank b then
      match rest.dropWhile isBlank with
      | quotationMark :: quoted =>
        match readQuoted quoted with
        | some (sub, closeBracket :: rest) => some (name.map lower ++ period :: sub, rest)
        | _ => none
      | _ => none
    else none
  | [] => none

/-! ## Values -/

/-- The text without a comment and without blanks at the end, and whether it ends inside quotes. -/
def dropComment (quoted : Bool) (t : Bytes) : Bytes × Bool :=
  go quoted false t []
where
  /-- Goes on behind `passed`, which holds what has been passed, last first. -/
  go (quoted escaped : Bool) : Bytes → (passed : Bytes) → Bytes × Bool
    | [], passed => ((passed.dropWhile isBlank).reverse, quoted)
    | b :: rest, passed =>
      if (b = semicolon || b = numberSign) && !quoted && !escaped then
        ((passed.dropWhile isBlank).reverse, quoted)
      else
        go (if b = quotationMark && !escaped then !quoted else quoted) (b = backslash && !escaped) rest
          (b :: passed)

/-- The value that a text means, and whether it goes on in the next line. There is none if a backslash stands
before a character that it has no meaning for. -/
def unescape : Bytes → Option (Bytes × Bool)
  | [] => some ([], false)
  | [backslash] => some ([], true)
  | backslash :: b :: rest =>
    let meaning : Option UInt8 :=
      if b = 110 then some lineFeed
      else if b = 116 then some tab
      else if b = 98 then some 8
      else if b = quotationMark || b = backslash then some b
      else none
    match meaning with
    | none => none
    | some b => (unescape rest).map fun (v, more) => (b :: v, more)
  | b :: rest => (unescape rest).map fun (v, more) => (if b = quotationMark then v else b :: v, more)

/-- Reads the rest of a value from the lines behind, and gives the lines behind the value. -/
def readMore (quoted : Bool) : List Bytes → Option (Bytes × List Bytes)
  | [] => some ([], [])
  | line :: rest =>
    let (t, quoted) := dropComment quoted line
    if t.isEmpty then readMore quoted rest
    else match unescape t with
      | none => none
      | some (v, true) => (readMore quoted rest).map fun (w, rest) => (v ++ w, rest)
      | some (v, false) => some (v, rest)

/-- Reads a name with its value: from its line, and from the lines behind if it goes on there. -/
def readEntry (line : Bytes) (rest : List Bytes) : Option (ConfigEntry × List Bytes) :=
  let (t, quoted) := dropComment false line
  let name := t.takeWhile isNameByte
  if name.isEmpty then none
  else match (t.drop name.length).dropWhile isBlank with
    | [] => some (⟨name.map lower, none⟩, rest)
    | equalsSign :: value =>
      match unescape (value.dropWhile isBlank) with
      | none => none
      | some (v, false) => some (⟨name.map lower, some v⟩, rest)
      | some (v, true) =>
        (readMore quoted rest).map fun (w, rest) => (⟨name.map lower, some (v ++ w)⟩, rest)
    | _ => none

/-! ## Files -/

/-- Reads lines, of which there are at most `fuel`, section headers counting as lines. -/
def readLines : (fuel : Nat) → (section? : Option Bytes) → List Bytes → Option Config
  | 0, _, _ => some []
  | _ + 1, _, [] => some []
  | fuel + 1, section?, line :: rest =>
    match line.dropWhile isBlank with
    | [] => readLines fuel section? rest
    | numberSign :: _ => readLines fuel section? rest
    | semicolon :: _ => readLines fuel section? rest
    | openBracket :: header =>
      match readSection header with
      | none => none
      | some (name, behind) => readLines fuel (some name) (behind :: rest)
    | b :: more =>
      match readEntry (b :: more) rest with
      | none => none
      | some (e, rest) =>
        let name := match section? with
          | some s => s ++ period :: e.name
          | none => e.name
        (readLines fuel section? rest).map (⟨name, e.value⟩ :: ·)

/-- The bytes without the mark of an encoding in front. -/
def dropMark (t : Bytes) : Bytes := (dropPrefix? t [0xEF, 0xBB, 0xBF]).getD t

/-- The configuration that a file holds, if it is well-formed. -/
def ofFile? (file : Bytes) : Option Config :=
  let t := dropMark file
  readLines (2 * t.length + 2) none (segments lineFeed t)

/-- The last value of a name. -/
def get? (c : Config) (name : String) : Option ConfigEntry :=
  c.reverse.find? fun e => e.name = name.toUTF8.toList

/-! ## Meaning -/

/-- The integer that a value means: digits, with a sign before and a unit behind if need be. -/
def integer? (v : Bytes) : Option Int :=
  let (negative, t) := match v.dropWhile isBlank with
    | hyphen :: t => (true, t)
    | plusSign :: t => (false, t)
    | t => (false, t)
  let digits := t.takeWhile fun b => 48 ≤ b && b ≤ 57
  let unit? : Option Nat := match (t.drop digits.length).map lower with
    | [] => some 1
    | [107] => some 1024
    | [109] => some (1024 * 1024)
    | [103] => some (1024 * 1024 * 1024)
    | _ => none
  if digits.isEmpty then none
  else unit?.map fun unit =>
    let n : Int := (digits.foldl (fun n b => 10 * n + (b.toNat - 48)) 0 * unit : Nat)
    if negative then -n else n

/-- The truth that an entry means: a word, an integer, or a name that stands alone. -/
def bool? (e : ConfigEntry) : Option Bool :=
  match e.value with
  | none => some true
  | some v =>
    let word := v.map lower
    if ["true", "yes", "on"].any (·.toUTF8.toList = word) then some true
    else if ["false", "no", "off", ""].any (·.toUTF8.toList = word) then some false
    else (integer? v).map (· ≠ 0)

/-! ## Writing -/

/-- A value in quotes. -/
def quote (v : Bytes) : Bytes :=
  quotationMark :: v.flatMap (fun b =>
    if b = quotationMark || b = backslash then [backslash, b]
    else if b = lineFeed then [backslash, 110]
    else [b]) ++ [quotationMark]

/-- A section with one entry, which is written for a full name. The parts of the name between its first and its
last dot name a subsection. -/
def renderEntry (name value : Bytes) : Bytes :=
  match segments period name with
  | top :: (mid :: more) =>
    let sub := (mid :: more).dropLast
    let header := if sub.isEmpty then top else top ++ blank :: quote (sub.flatMap (period :: ·)).tail
    openBracket :: header ++ [closeBracket, lineFeed, tab] ++ (mid :: more).getLastD []
      ++ [blank, equalsSign, blank] ++ quote value ++ [lineFeed]
  | _ => []

end Config
end MarkerAudit
