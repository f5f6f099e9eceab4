import MarkerAudit.Ascii
import MarkerAudit.Mode
import MarkerAudit.Utf8
import MarkerAudit.Options.Similarity

/-!
# Options

Reads the command line from left to right. The first problem ends the reading; a value given as an argument of
its own is looked at only when the next option, or the end, is reached.
-/

namespace MarkerAudit

open Ascii

/-- What a run is asked to do. Repeatable values are in the order given. -/
structure Options where
  includes : List Text := []
  excludes : List Text := []
  keywords : List Text := []
  format : ReportFormat := .plain
  mode : SearchMode := .auto
  verbose : Bool := false
deriving DecidableEq, Repr

/-- The options by name. -/
inductive OptionName
  | includePattern
  | excludePattern
  | format
  | mode
  | keyword
  | verbose
  | help
  | version
deriving DecidableEq, Repr

namespace OptionName

/-- All options, in the order they are listed in. -/
def all : List OptionName :=
  [.includePattern, .excludePattern, .format, .mode, .keyword, .verbose, .help, .version]

/-- The word behind two dashes. -/
def long : OptionName → Text
  | .includePattern => "include".toList
  | .excludePattern => "exclude".toList
  | .format => "format".toList
  | .mode => "mode".toList
  | .keyword => "keyword".toList
  | .verbose => "verbose".toList
  | .help => "help".toList
  | .version => "version".toList

/-- The letter behind one dash. -/
def short : OptionName → Char
  | .includePattern => 'i'
  | .excludePattern => 'e'
  | .format => 'f'
  | .mode => 'm'
  | .keyword => 'k'
  | .verbose => 'v'
  | .help => 'h'
  | .version => 'V'

/-- What the value is called, if the option takes one. -/
def valueName? : OptionName → Option Text
  | .includePattern | .excludePattern => some "PATTERN".toList
  | .format => some "FORMAT".toList
  | .mode => some "MODE".toList
  | .keyword => some "MARKER".toList
  | .verbose | .help | .version => none

/-- The values that the option takes, if only certain ones. -/
def choices : OptionName → List Text
  | .format => ReportFormat.all.map ReportFormat.word
  | .mode => SearchMode.all.map SearchMode.word
  | _ => []

/-- The option as it is shown, with its value. -/
def shown (o : OptionName) : Text :=
  "--".toList ++ o.long ++ match o.valueName? with
    | some v => " <".toList ++ v ++ ['>']
    | none => []

/-- The option with a long name. -/
def ofLong? (word : Text) : Option OptionName := all.find? (·.long = word)

/-- The option with a short name. -/
def ofShort? (letter : Char) : Option OptionName := all.find? (·.short = letter)

end OptionName

/-- What is wrong with a command line. `used` lists the options that were in use before. -/
inductive UsageError
  | unexpectedArgument (arg : Text) (similar : Option OptionName) (used : List OptionName)
  | valueMissing (o : OptionName)
  | valueInvalid (o : OptionName) (value : Text)
  | valueUnexpected (o : OptionName) (value : Text) (used : List OptionName)
  | repeated (o : OptionName)
  | invalidUtf8
deriving DecidableEq, Repr

/-- Why reading the command line ends without options: help or the version is asked for, or it is wrong. -/
inductive Stop
  | shortHelp
  | longHelp
  | version
  | usage (e : UsageError)
deriving DecidableEq, Repr

namespace Options

/-- What has been read: the options so far, which of them were given, in order, and an option that waits for
its value or has one that has not been looked at. -/
structure Reading where
  options : Options := {}
  used : List OptionName := []
  waiting : Option (OptionName × Option Bytes) := none
deriving Repr

/-- The options in use once one more is. -/
def addUse (used : List OptionName) (o : OptionName) : List OptionName :=
  if used.contains o then used else used ++ [o]

/-- The text of a value that may be any text. -/
def textValue (v : Bytes) : Except Stop Text :=
  match Utf8.decode? v with
  | some t => .ok t
  | none => .error (.usage .invalidUtf8)

/-- The choice that a value names. -/
def choiceValue {α : Type} (o : OptionName) (ofWord? : Text → Option α) (v : Bytes) : Except Stop α :=
  match (Utf8.decode? v).bind ofWord? with
  | some a => .ok a
  | none =>
    .error (.usage (if v.isEmpty then .valueMissing o else .valueInvalid o (Utf8.decode v)))

/-- Takes an option with its value. What may be given only once is refused the second time before the value
is looked at. -/
def Reading.take (r : Reading) (o : OptionName) (v : Bytes) : Except Stop Reading :=
  let repeatable := o = .includePattern || o = .excludePattern || o = .keyword
  if !repeatable && r.used.contains o then .error (.usage (.repeated o))
  else
    let keep := fun (options : Options) => (⟨options, addUse r.used o, none⟩ : Reading)
    match o with
    | .includePattern =>
      (textValue v).map fun t => keep { r.options with includes := r.options.includes ++ [t] }
    | .excludePattern =>
      (textValue v).map fun t => keep { r.options with excludes := r.options.excludes ++ [t] }
    | .keyword =>
      (textValue v).map fun t => keep { r.options with keywords := r.options.keywords ++ [t] }
    | .format => (choiceValue o ReportFormat.ofWord? v).map fun f => keep { r.options with format := f }
    | .mode => (choiceValue o SearchMode.ofWord? v).map fun m => keep { r.options with mode := m }
    | .verbose => .ok (keep { r.options with verbose := true })
    | .help | .version => .ok (keep r.options)

/-- Takes the option that waits. -/
def Reading.settle (r : Reading) : Except Stop Reading :=
  match r.waiting with
  | none => .ok r
  | some (o, none) => .error (.usage (.valueMissing o))
  | some (o, some v) => r.take o v

/-- The options in use once the one that waits has been taken, whatever its value. -/
def Reading.usedBefore (r : Reading) : List OptionName :=
  match r.waiting with
  | some (o, some _) => addUse r.used o
  | _ => r.used

/-- Takes an option without a value; `long` tells how it was written. -/
def Reading.switch (r : Reading) (o : OptionName) (long : Bool) : Except Stop Reading :=
  match r.settle with
  | .error e => .error e
  | .ok r =>
    match o with
    | .help => .error (if long then .longHelp else .shortHelp)
    | .version => .error .version
    | o => r.take o []

/-- Takes an option that takes a value, with the value that is attached, if there is one. -/
def Reading.open (r : Reading) (o : OptionName) (attached : Option Bytes) : Except Stop Reading :=
  match r.settle with
  | .error e => .error e
  | .ok r =>
    match attached with
    | some v => r.take o v
    | none => .ok { r with waiting := some (o, none) }

/-- The first character of bytes with the bytes behind it, or all of them as text if they start with none. -/
def firstChar (bytes : Bytes) : Text ⊕ (Char × Bytes) :=
  let found := [1, 2, 3, 4].findSome? fun n =>
    match Utf8.decode? (bytes.take n) with
    | some [c] => some (c, bytes.drop n)
    | _ => none
  match found with
  | some found => .inr found
  | none => .inl (Utf8.decode bytes)

/-- Reads the letters behind one dash. A letter that takes a value takes all that follows, but for an equals
sign in front. -/
def readShort : (fuel : Nat) → Bytes → Reading → Except Stop Reading
  | 0, _, r => .ok r
  | fuel + 1, bytes, r =>
    if bytes.isEmpty then .ok r
    else match firstChar bytes with
      | .inl rest => .error (.usage (.unexpectedArgument ('-' :: rest) none []))
      | .inr (c, rest) =>
        match OptionName.ofShort? c with
        | none => .error (.usage (.unexpectedArgument ['-', c] none []))
        | some o =>
          if o.valueName?.isSome then
            r.open o (if rest.isEmpty then none else some ((dropPrefix? rest [equalsSign]).getD rest))
          else match r.switch o false with
            | .error e => .error e
            | .ok r => readShort fuel rest r

/-- The bytes before the first equals sign, and those behind it if there is one. -/
def splitValue (bytes : Bytes) : Bytes × Option Bytes :=
  let name := bytes.takeWhile (· ≠ equalsSign)
  (name, match bytes.drop name.length with
    | [] => none
    | _ :: value => some value)

/-- Reads an option behind two dashes. -/
def readLong (bytes : Bytes) (r : Reading) : Except Stop Reading :=
  let (name, value) := splitValue bytes
  let word := Utf8.decode name
  match (Utf8.decode? name).bind OptionName.ofLong? with
  | some o =>
    if o.valueName?.isSome then r.open o value
    else match value with
      | none => r.switch o true
      | some v => .error (.usage (.valueUnexpected o (Utf8.decode v) (addUse r.usedBefore o)))
  | none =>
    let similar := Similarity.best? word OptionName.long OptionName.all
    let used := match similar with
      | some o => addUse r.usedBefore o
      | none => r.usedBefore
    .error (.usage (.unexpectedArgument ("--".toList ++ word) similar used))

/-- Reads arguments one after another. Behind two dashes alone nothing may follow. -/
def readFrom : List Bytes → Reading → Except Stop Options
  | [], r => r.settle.map Reading.options
  | arg :: rest, r =>
    match arg with
    | [hyphen, hyphen] =>
      match rest with
      | [] => r.settle.map Reading.options
      | extra :: _ => .error (.usage (.unexpectedArgument (Utf8.decode extra) none []))
    | hyphen :: hyphen :: long =>
      match readLong long r with
      | .error e => .error e
      | .ok r => readFrom rest r
    | hyphen :: b :: short =>
      match readShort (short.length + 1) (b :: short) r with
      | .error e => .error e
      | .ok r => readFrom rest r
    | value =>
      match r.waiting with
      | some (o, none) => readFrom rest { r with waiting := some (o, some value) }
      | _ => .error (.usage (.unexpectedArgument (Utf8.decode value) none []))

/-- The options that the arguments behind the program's name ask for. -/
def ofArgs (args : List Bytes) : Except Stop Options :=
  readFrom args {}

end Options
end MarkerAudit
