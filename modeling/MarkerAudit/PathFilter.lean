import MarkerAudit.Pattern

/-!
# Path filters

Which candidate paths are scanned. A path is kept if some include matches it, or if there are no includes,
and no exclude matches it. The first exclude is always the one that matches the tool itself.
-/

namespace MarkerAudit

/-- Whether a rule keeps or drops what it matches. -/
inductive Polarity
  | keep
  | drop
deriving DecidableEq, Repr

/-- A pattern of paths with its polarity. -/
structure Rule where
  polarity : Polarity
  pattern : Pattern
deriving Repr

namespace Rule

/-- Whether the rule's pattern occurs anywhere in the path. -/
def isMatch (r : Rule) (path : Text) : Bool :=
  r.pattern.isMatch path

/-- The rule with a written pattern. -/
def ofText (polarity : Polarity) (source : Text) : Except Pattern.Error Rule :=
  match Pattern.ofText source with
  | .error e => .error e
  | .ok p => .ok ⟨polarity, p⟩

/-- The pattern of the paths whose last component is `name`. -/
def selfPattern (name : Text) : Text :=
  "(?:^|/)".toList ++ Pattern.escape name ++ ['$']

/-- The rule that drops the paths whose last component is `name`. -/
def selfExclusion (name : Text) : Except Pattern.Error Rule :=
  ofText .drop (selfPattern name)

end Rule

/-- A written pattern that is refused, and why. -/
structure PatternRefused where
  source : Text
  cause : Pattern.Error
deriving DecidableEq, Repr

/-- The message about a refused pattern. -/
def PatternRefused.message (e : PatternRefused) : Text :=
  "invalid path pattern '".toList ++ e.source ++ "': ".toList ++ e.cause.message

/-- Why there is no filter: a pattern that was asked for is refused, or the one of the tool itself is. The latter is
asserted never to happen. -/
inductive FilterError
  | asked (e : PatternRefused)
  | own (e : PatternRefused)
deriving DecidableEq, Repr

namespace FilterError

/-- What is asserted of the pattern of the tool itself. -/
def assertion : Text := "escaped literals always compile".toList

/-- The pattern that is refused, whoever asked for it. -/
def refused : FilterError → PatternRefused
  | .asked e | .own e => e

instance : Coe FilterError PatternRefused := ⟨refused⟩

/-- The message about a filter that is not there. An assertion that does not hold is told as such. -/
def message : FilterError → Text
  | .asked e => e.message
  | .own _ => "internal error: entered unreachable code: ".toList ++ assertion

end FilterError

/-- Rules for paths. -/
structure PathFilter where
  rules : List Rule
deriving Repr

namespace PathFilter

/-- The rules with the given patterns; the first that is refused is reported. -/
def rulesOf (polarity : Polarity) : List Text → Except PatternRefused (List Rule)
  | [] => .ok []
  | source :: rest =>
    match Rule.ofText polarity source with
    | .error e => .error ⟨source, e⟩
    | .ok r =>
      match rulesOf polarity rest with
      | .error e => .error e
      | .ok rs => .ok (r :: rs)

/-- The filter of a tool called `name`. Excludes are read before includes. -/
def ofLists? (name : Text) (includes excludes : List Text) : Except FilterError PathFilter :=
  match Rule.selfExclusion name with
  | .error e => .error (.own ⟨Rule.selfPattern name, e⟩)
  | .ok self =>
    match rulesOf .drop excludes with
    | .error e => .error (.asked e)
    | .ok dropping =>
      match rulesOf .keep includes with
      | .error e => .error (.asked e)
      | .ok keeping => .ok ⟨self :: dropping ++ keeping⟩

/-- The rules that keep paths, in order. -/
def includes (f : PathFilter) : List Rule :=
  f.rules.filter (·.polarity = .keep)

/-- The rules that drop paths, in order. -/
def excludes (f : PathFilter) : List Rule :=
  f.rules.filter (·.polarity = .drop)

/-- Whether a path is kept. -/
def isRetained (f : PathFilter) (path : Text) : Bool :=
  (f.includes.isEmpty || f.includes.any (·.isMatch path)) && !f.excludes.any (·.isMatch path)

/-- The paths that are kept, in order. -/
def apply (f : PathFilter) (paths : List Text) : List Text :=
  paths.filter f.isRetained

end PathFilter
end MarkerAudit
