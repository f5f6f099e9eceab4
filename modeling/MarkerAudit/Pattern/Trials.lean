import MarkerAudit.Pattern.Expr

/-!
# The order of matches

A search tries the ways in which an expression can match one after another, and settles on the first. Branches come in
the order they are written in, and a repetition tries many rounds before few, unless it is lazy.
-/

namespace MarkerAudit.Pattern

/-- A way to match from a place in a text: what is taken there, what is left behind it, and what the groups take, in the
order in which they open. -/
structure Trial where
  taken : Text
  rest : Text
  groups : List Text
deriving DecidableEq, Repr

namespace Trial

/-- The way that takes nothing. -/
def stay (t : Text) : Trial := ⟨[], t, []⟩

/-- One way behind another. -/
def append (w v : Trial) : Trial := ⟨w.taken ++ v.taken, v.rest, w.groups ++ v.groups⟩

/-- The way as that of a group. -/
def grouped (w : Trial) : Trial := { w with groups := w.taken :: w.groups }

end Trial

/-- The ways to match between the character before a place and the text behind it, in the order of a search. -/
abbrev Trials := Option Char → Text → List Trial

namespace Trials

/-- Nothing is taken. -/
def stay : Trials := fun _ t => [.stay t]

/-- One character is taken. -/
def one (p : Char → Bool) : Trials
  | _, [] => []
  | _, c :: t => if p c then [⟨[c], t, []⟩] else []

/-- One part behind another. -/
def andThen (a b : Trials) : Trials := fun before t =>
  (a before t).flatMap fun w => (b (w.taken.getLast?.or before) w.rest).map w.append

/-- One part or else another. -/
def orElse (a b : Trials) : Trials := fun before t => a before t ++ b before t

/-- The part as a group. -/
def grouped (a : Trials) : Trials := fun before t => (a before t).map Trial.grouped

/-- So many rounds. -/
def exactly (a : Trials) : Nat → Trials
  | 0 => stay
  | n + 1 => a.andThen (a.exactly n)

/-- At most so many rounds. One that takes nothing is the last. -/
def atMost (a : Trials) (greed : Greed) : Nat → Trials
  | 0 => stay
  | n + 1 =>
    let more : Trials := fun before t =>
      (a before t).flatMap fun w =>
        if w.taken = [] then [w] else (a.atMost greed n (w.taken.getLast?.or before) w.rest).map w.append
    match greed with
    | .lazy => stay.orElse more
    | .greedy => more.orElse stay

/-- Any number of rounds up to a limit, if there is one. Without a limit there are at most as many as characters, and
one that takes nothing. -/
def upTo (a : Trials) (greed : Greed) (most : Option Nat) : Trials := fun before t =>
  a.atMost greed (most.getD (t.length + 1)) before t

end Trials

/-- The ways to match an atom, of which there is one at most. -/
def Atom.trials : Atom → Trials
  | .char c => .one (· = c)
  | .set s => .one s.contains
  | .look l => fun before t => if l.holds before t.head? then [.stay t] else []

namespace Expr

/-- The ways to match an expression. -/
def trials : Expr Atom → Trials
  | .empty => .stay
  | .run atoms => atoms.foldr (fun a b => a.trials.andThen b) .stay
  | .capture body => body.trials.grouped
  | .repetition least most greed body =>
    (body.trials.exactly least).andThen (body.trials.upTo greed (most.map (· - least)))
  | .seq parts => inTurn parts
  | .alt branches => anyOf branches
where
  /-- The ways to match one part after another. -/
  inTurn : List (Expr Atom) → Trials
    | [] => .stay
    | e :: rest => e.trials.andThen (inTurn rest)
  /-- The ways to match one of several branches. -/
  anyOf : List (Expr Atom) → Trials
    | [] => fun _ _ => []
    | e :: rest => e.trials.orElse (anyOf rest)

/-- The first way to match in a text behind a character, from the earliest place where there is one, and what stands
before that place. -/
def first? (e : Expr Atom) : (before : Option Char) → Text → Option (Text × Trial)
  | before, [] => (e.trials before []).head?.map fun w => ([], w)
  | before, c :: t =>
    match (e.trials before (c :: t)).head? with
    | some w => some ([], w)
    | none => (e.first? (some c) t).map fun (passed, w) => (c :: passed, w)

/-- The text with what matches first replaced by a text that is made of its groups. -/
def replaceFirst (e : Expr Atom) (replacement : List Text → Text) (t : Text) : Text :=
  match e.first? none t with
  | some (passed, w) => passed ++ replacement w.groups ++ w.rest
  | none => t

end Expr
end MarkerAudit.Pattern
