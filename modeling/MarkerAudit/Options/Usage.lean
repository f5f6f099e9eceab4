import MarkerAudit.Ascii
import MarkerAudit.Options

/-!
# Help and usage

What is printed instead of a run: help, the version, or what is wrong with the command line.
-/

namespace MarkerAudit

open Ascii

/-- The tool's own name, by which it is known unless it is started under another. -/
def toolName : Text := "todocheck".toList

/-- The usage line of a program. Options in use are listed; if there are none, any may follow. -/
def usageLine (program : Text) (used : List OptionName) : Text :=
  "Usage: ".toList ++ program ++ ' ' ::
    (if used.isEmpty then "[OPTIONS]".toList else Text.joinWith [' '] (used.map OptionName.shown))

/-- The lines of the short help below the usage line. -/
def shortHelpLines : List String := [
  "Options:",
  "  -i, --include <PATTERN>  Only scan paths matching this regular expression (repeatable)",
  "  -e, --exclude <PATTERN>  Skip paths matching this regular expression (repeatable)",
  "  -f, --format <FORMAT>    Output format [default: none] [possible values: none, warn]",
  "  -m, --mode <MODE>        How candidate files are listed [default: default] "
    ++ "[possible values: git, find, default]",
  "  -k, --keyword <MARKER>   Marker to search for instead of the defaults \"FIXME:\" and \"TODO:\" "
    ++ "(repeatable)",
  "  -v, --verbose            Enable verbose output on stderr",
  "  -h, --help               Print help (see more with '--help')",
  "  -V, --version            Print version"]

/-- The lines of the long help below the usage line. -/
def longHelpLines : List String := [
  "Options:",
  "  -i, --include <PATTERN>",
  "          Only scan paths matching this regular expression (repeatable)",
  "",
  "  -e, --exclude <PATTERN>",
  "          Skip paths matching this regular expression (repeatable)",
  "",
  "  -f, --format <FORMAT>",
  "          Output format",
  "",
  "          Possible values:",
  "          - none: Raw `path:line:marker` lines; findings exit non-zero",
  "          - warn: Compiler-style `path:line:warning: marker` lines; always exits 0",
  "          ",
  "          [default: none]",
  "",
  "  -m, --mode <MODE>",
  "          How candidate files are listed",
  "",
  "          Possible values:",
  "          - git:     Tracked and untracked, non-ignored files of the git working tree",
  "          - find:    Every regular file below the current directory",
  "          - default: `git` inside a working tree, `find` elsewhere",
  "          ",
  "          [default: default]",
  "",
  "  -k, --keyword <MARKER>",
  "          Marker to search for instead of the defaults \"FIXME:\" and \"TODO:\" (repeatable)",
  "",
  "  -v, --verbose",
  "          Enable verbose output on stderr",
  "",
  "  -h, --help",
  "          Print help (see a summary with '-h')",
  "",
  "  -V, --version",
  "          Print version"]

/-- Lines as a text, each with a line end. -/
def unlines (ls : List Text) : Text :=
  ls.flatMap (· ++ ['\n'])

/-- The short help of a program. -/
def shortHelpText (program : Text) : Text :=
  unlines (["Report TODO and FIXME markers left in a file tree".toList, [], usageLine program [], []]
    ++ shortHelpLines.map String.toList)

/-- The long help of a program. -/
def longHelpText (program : Text) : Text :=
  unlines (["Report TODO and FIXME markers left in a file tree.".toList, [],
    ("Exits 1 when markers are found (unless --format warn), 0 when the tree is clean and 2 on "
      ++ "configuration or enumeration errors.").toList, [], usageLine program [], []]
    ++ longHelpLines.map String.toList)

/-- The version of the tool. -/
def versionText : Text := toolName ++ " 0.1.0\n".toList

/-- The line of an option's choices, if it has any. -/
def choicesText (o : OptionName) : Text :=
  if o.choices.isEmpty then []
  else "\n  [possible values: ".toList ++ Text.joinWith ", ".toList o.choices ++ [']']

/-- What is wrong, with a tip and the usage where they help. -/
def UsageError.body (program : Text) : UsageError → Text
  | .unexpectedArgument arg similar used =>
    let tip := match similar with
      | some o => "  tip: a similar argument exists: '--".toList ++ o.long ++ "'\n\n".toList
      | none => []
    "unexpected argument '".toList ++ arg ++ "' found\n\n".toList ++ tip ++ usageLine program used
  | .valueMissing o =>
    "a value is required for '".toList ++ o.shown ++ "' but none was supplied".toList ++ choicesText o
  | .valueInvalid o v =>
    let tip := match Similarity.best? v id o.choices with
      | some c => "\n\n  tip: a similar value exists: '".toList ++ c ++ ['\'']
      | none => []
    "invalid value '".toList ++ v ++ "' for '".toList ++ o.shown ++ ['\''] ++ choicesText o ++ tip
  | .valueUnexpected o v used =>
    "unexpected value '".toList ++ v ++ "' for '".toList ++ o.shown
      ++ "' found; no more were expected\n\n".toList ++ usageLine program used
  | .repeated o =>
    "the argument '".toList ++ o.shown ++ "' cannot be used multiple times\n\n".toList
      ++ usageLine program []
  | .invalidUtf8 =>
    "invalid UTF-8 was detected in one or more arguments\n\n".toList ++ usageLine program []

/-- What is printed when there are no options to run with. -/
def Stop.message (program : Text) : Stop → Text
  | .shortHelp => shortHelpText program
  | .longHelp => longHelpText program
  | .version => versionText
  | .usage e =>
    "error: ".toList ++ e.body program ++ "\n\nFor more information, try '--help'.\n".toList

/-- Whether it is an error, which goes to the error output and has an exit status of its own. -/
def Stop.isError : Stop → Bool
  | .usage _ => true
  | _ => false

/-- The exit status. -/
def Stop.code (s : Stop) : Nat := if s.isError then 2 else 0

/-! ## The program's name -/

/-- The last component of a path, unless it is `..` or there is none. Trailing slashes and components `.` do
not count. -/
def fileName? (path : Bytes) : Option Bytes :=
  match ((segments slash path).filter fun c => c ≠ [] && c ≠ [period]).getLast? with
  | some [period, period] => none
  | last => last

/-- The name that a program was started by, whatever its bytes. -/
def invokedName (argv0 : Bytes) : Text :=
  match fileName? argv0 with
  | some n => Utf8.decode n
  | none => toolName

/-- The name in the usage line: the one that the program was started by, if that is a text. -/
def usageName (argv0 : Bytes) : Text :=
  ((fileName? argv0).bind Utf8.decode?).getD toolName

end MarkerAudit
