import MarkerAudit.Proofs.Splitting

/-!
# Splits in the order of a search

A search for the pattern of a written line tries each part of the pattern in every way it can match, in a fixed order,
and settles on the first attempt that leads to the end of the line. Splitting a line gives just that attempt.
-/

namespace MarkerAudit

/-- What a part of a pattern can take from the start of a text, each with what it leaves, in the order in which a search
tries it. -/
abbrev Attempts := Text → List (Text × Text)

namespace Attempts

/-- One character. -/
def one (p : Char → Bool) : Attempts
  | [] => []
  | c :: rest => if p c then [([c], rest)] else []

/-- One part behind another. -/
def andThen (a b : Attempts) : Attempts := fun t =>
  (a t).flatMap fun (s, rest) => (b rest).map fun (s', rest') => (s ++ s', rest')

/-- Any number of characters, few before many. -/
def lazyMany (p : Char → Bool) : Attempts
  | [] => [([], [])]
  | c :: rest => ([], c :: rest) :: if p c then (lazyMany p rest).map fun (s, rest') => (c :: s, rest') else []

/-- Any number of characters, many before few. -/
def greedyMany (p : Char → Bool) : Attempts
  | [] => [([], [])]
  | c :: rest => (if p c then (greedyMany p rest).map fun (s, rest') => (c :: s, rest') else []) ++ [([], c :: rest)]

/-- At most one character, rather than none. -/
def greedyOption (p : Char → Bool) : Attempts := fun t => one p t ++ [([], t)]

/-- One text of several, in their order. -/
def anyOf (texts : List Text) : Attempts := fun t =>
  texts.filterMap fun m => (dropPrefix? t m).map fun rest => (m, rest)

variable {p : Char → Bool} {a b : Attempts} {c : Char} {s t rest : Text}

theorem mem_andThen : (s, rest) ∈ a.andThen b t ↔
    ∃ s₁ mid s₂, (s₁, mid) ∈ a t ∧ (s₂, rest) ∈ b mid ∧ s = s₁ ++ s₂ := by
  simp only [andThen, List.mem_flatMap, List.mem_map, Prod.exists, Prod.mk.injEq]
  constructor
  · rintro ⟨s₁, mid, ha, s₂, _, hb, rfl, rfl⟩
    exact ⟨s₁, mid, s₂, ha, hb, rfl⟩
  · rintro ⟨s₁, mid, s₂, ha, hb, rfl⟩
    exact ⟨s₁, mid, ha, s₂, rest, hb, rfl, rfl⟩

/-- A part that can be taken in one way only leaves the choice to what comes behind it. -/
theorem andThen_of_eq_singleton (h : a t = [(s, rest)]) :
    a.andThen b t = (b rest).map fun (s', rest') => (s ++ s', rest') := by
  rw [andThen, h, List.flatMap_cons, List.flatMap_nil, List.append_nil]

theorem one_cons_of_pos (h : p c = true) (rest : Text) : one p (c :: rest) = [([c], rest)] := by
  rw [one, if_pos h]

theorem one_cons_of_neg (h : p c = false) (rest : Text) : one p (c :: rest) = [] := by
  rw [one, if_neg (Bool.eq_false_iff.mp h)]

theorem eq_cons_of_mem_one (h : (s, rest) ∈ one p t) : ∃ c, p c = true ∧ s = [c] ∧ t = c :: rest := by
  cases t with
  | nil => cases h
  | cons c t =>
      rw [one] at h
      split at h
      · rename_i hc
        cases List.mem_singleton.mp h
        exact ⟨c, hc, rfl, rfl⟩
      · cases h

theorem mem_greedyMany_cons : (s, rest) ∈ greedyMany p (c :: t) ↔
    (∃ s', p c = true ∧ s = c :: s' ∧ (s', rest) ∈ greedyMany p t) ∨ s = [] ∧ rest = c :: t := by
  rw [greedyMany, List.mem_append, List.mem_singleton, Prod.mk.injEq]
  refine or_congr_left ?_
  split
  · rename_i hc
    simp only [List.mem_map, Prod.exists, Prod.mk.injEq]
    constructor
    · rintro ⟨s', _, hmem, rfl, rfl⟩
      exact ⟨s', hc, rfl, hmem⟩
    · rintro ⟨s', _, rfl, hmem⟩
      exact ⟨s', rest, hmem, rfl, rfl⟩
  · rename_i hc
    simp [hc]

/-- Any number of characters are taken greedily in every way. -/
theorem mem_greedyMany : (s, rest) ∈ greedyMany p t ↔ t = s ++ rest ∧ ∀ c ∈ s, p c = true := by
  induction t generalizing s with
  | nil =>
      rw [greedyMany, List.mem_singleton, Prod.mk.injEq]
      constructor
      · rintro ⟨rfl, rfl⟩
        exact ⟨rfl, List.forall_mem_nil _⟩
      · rintro ⟨heq, _⟩
        exact List.append_eq_nil_iff.mp heq.symm
  | cons c t ih =>
      rw [mem_greedyMany_cons]
      constructor
      · rintro (⟨s', hc, rfl, hmem⟩ | ⟨rfl, rfl⟩)
        · obtain ⟨rfl, hall⟩ := ih.mp hmem
          exact ⟨rfl, List.forall_mem_cons.mpr ⟨hc, hall⟩⟩
        · exact ⟨rfl, List.forall_mem_nil _⟩
      · rintro ⟨heq, hall⟩
        cases s with
        | nil => exact .inr ⟨rfl, heq.symm⟩
        | cons d s =>
            obtain ⟨rfl, rfl⟩ := List.cons.inj heq
            obtain ⟨hc, hall⟩ := List.forall_mem_cons.mp hall
            exact .inl ⟨s, hc, rfl, ih.mpr ⟨rfl, hall⟩⟩

theorem mem_anyOf {texts : List Text} : (s, rest) ∈ anyOf texts t ↔ s ∈ texts ∧ t = s ++ rest := by
  simp only [anyOf, List.mem_filterMap, Option.map_eq_some_iff, dropPrefix?_eq_some_iff, Prod.mk.injEq]
  constructor
  · rintro ⟨m, hm, _, rfl, rfl, rfl⟩
    exact ⟨hm, rfl⟩
  · rintro ⟨hm, rfl⟩
    exact ⟨s, hm, rest, rfl, rfl, rfl⟩

/-- Where a character comes next that a repetition cannot take, there is one attempt only. -/
theorem greedyMany_andThen_one {q : Char → Bool} {ds : Text} (hp : p c = false) (hq : q c = true)
    (hall : ∀ d ∈ ds, p d = true ∧ q d = false) :
    (greedyMany p).andThen (one q) (ds ++ c :: rest) = [(ds ++ [c], rest)] := by
  induction ds with
  | nil =>
      have hnone : greedyMany p (c :: rest) = [([], c :: rest)] := by
        rw [greedyMany, if_neg (Bool.eq_false_iff.mp hp), List.nil_append]
      rw [List.nil_append, andThen_of_eq_singleton hnone, one_cons_of_pos hq]
      rfl
  | cons d ds ih =>
      obtain ⟨⟨hd, hd'⟩, hall⟩ := List.forall_mem_cons.mp hall
      have hmore := congrArg (List.map fun x : Text × Text => (d :: x.1, x.2)) (ih hall)
      simp only [andThen, List.map_flatMap, List.map_map] at hmore
      -- to stop in front of another digit leaves no colon to go on with
      simp only [andThen, List.cons_append, greedyMany, hd, if_true, List.flatMap_append, List.flatMap_map,
        List.flatMap_cons, List.flatMap_nil, one_cons_of_neg hd', List.map_nil, List.append_nil]
      exact hmore

end Attempts

/-- The head of a list that holds one thing only, in whatever number. -/
theorem head?_of_mem_iff {α : Type} {xs : List α} {x : α} {b : Bool} (h : ∀ y, y ∈ xs ↔ y = x ∧ b = true) :
    xs.head? = if b then some x else none := by
  cases xs with
  | nil =>
      rw [if_neg, List.head?_nil]
      exact fun hb => List.not_mem_nil ((h x).mpr ⟨rfl, hb⟩)
  | cons y xs =>
      obtain ⟨rfl, hb⟩ := (h y).mp List.mem_cons_self
      rw [if_pos hb, List.head?_cons]

/-- What comes first in one list or another for each of some things, if it is the same for either. -/
theorem head?_flatMap_congr {α β γ δ : Type} {xs : List α} {f : α → List β} {g : α → List γ} {φ : β → δ} {ψ : γ → δ}
    (h : ∀ x ∈ xs, (f x).head?.map φ = (g x).head?.map ψ) :
    (xs.flatMap f).head?.map φ = (xs.flatMap g).head?.map ψ := by
  induction xs with
  | nil => rfl
  | cons x xs ih =>
      obtain ⟨hx, hxs⟩ := List.forall_mem_cons.mp h
      simp only [List.flatMap_cons, List.head?_append, Option.map_or, hx, ih hxs]

namespace Formatter

open Attempts

variable {ms : MarkerSet} {line t number behind head tail : Text}

/-! ## The parts of the pattern -/

/-- A number between colons. -/
def numberAttempts : Attempts :=
  (one (· = ':')).andThen ((one Unicode.Category.decimalNumber.contains).andThen
    ((greedyMany Unicode.Category.decimalNumber.contains).andThen (one (· = ':'))))

/-- A marker and what follows it, up to the end of the line. -/
def wholeTails (ms : MarkerSet) (t : Text) : List Text :=
  (((anyOf ms.markers).andThen (greedyMany (· ≠ '\n')) t).filter fun (_, rest) => rest = []).map Prod.fst

/-- A tail behind at most one blank. -/
def tailAttempts (ms : MarkerSet) (t : Text) : List Text :=
  (greedyOption Unicode.Property.whiteSpace.contains t).flatMap fun (_, rest) => wholeTails ms rest

/-- The splits of a line behind a number and in front of a tail, in the order in which a search tries them. -/
def splitAttempts (ms : MarkerSet) (line : Text) : List (Text × Text) :=
  ((lazyMany (· ≠ '\n')).andThen numberAttempts line).flatMap fun (head, behind) =>
    (tailAttempts ms behind).map fun tail => (head, tail)

theorem numberAttempts_append (h : IsNumber number) (behind : Text) :
    numberAttempts (number ++ behind) = [(number, behind)] := by
  obtain ⟨digits, hne, hall, rfl⟩ := h
  cases digits with
  | nil => exact absurd rfl hne
  | cons d ds =>
      obtain ⟨hd, hall⟩ := List.forall_mem_cons.mp hall
      have hcolon : ∀ e ∈ ds, Unicode.Category.decimalNumber.contains e = true ∧ decide (e = ':') = false := by
        intro e he
        refine ⟨hall e he, decide_eq_false ?_⟩
        rintro rfl
        exact absurd (hall _ he) (by rw [not_contains_colon]; exact Bool.false_ne_true)
      have htext : ':' :: (d :: ds) ++ [':'] ++ behind = ':' :: d :: (ds ++ ':' :: behind) := by simp
      have hmore : (greedyMany Unicode.Category.decimalNumber.contains).andThen (one (· = ':')) (ds ++ ':' :: behind) =
          [(ds ++ [':'], behind)] := greedyMany_andThen_one not_contains_colon (decide_eq_true rfl) hcolon
      rw [htext, numberAttempts, andThen_of_eq_singleton (one_cons_of_pos (decide_eq_true rfl) _),
        andThen_of_eq_singleton (one_cons_of_pos hd _), hmore]
      rfl

theorem isNumber_of_mem_numberAttempts (h : (number, behind) ∈ numberAttempts t) :
    IsNumber number ∧ t = number ++ behind := by
  obtain ⟨_, _, _, hcolon, hbehind, rfl⟩ := mem_andThen.mp h
  obtain ⟨_, _, _, hdigit, hmore, rfl⟩ := mem_andThen.mp hbehind
  obtain ⟨digits, _, _, hdigits, hcolon', rfl⟩ := mem_andThen.mp hmore
  obtain ⟨c, hc, rfl, rfl⟩ := eq_cons_of_mem_one hcolon
  obtain ⟨d, hd, rfl, rfl⟩ := eq_cons_of_mem_one hdigit
  obtain ⟨rfl, hall⟩ := mem_greedyMany.mp hdigits
  obtain ⟨c', hc', rfl, rfl⟩ := eq_cons_of_mem_one hcolon'
  rw [of_decide_eq_true hc, of_decide_eq_true hc']
  exact ⟨⟨d :: digits, List.cons_ne_nil _ _, List.forall_mem_cons.mpr ⟨hd, hall⟩, rfl⟩, by simp⟩

theorem mem_wholeTails : tail ∈ wholeTails ms t ↔ tail = t ∧ isTail ms t = true := by
  simp only [wholeTails, List.mem_map, List.mem_filter, Prod.exists, decide_eq_true_eq, isTail_iff_exists]
  constructor
  · rintro ⟨_, _, ⟨hmem, rfl⟩, rfl⟩
    obtain ⟨m, _, rest, hmarker, hrest, rfl⟩ := mem_andThen.mp hmem
    obtain ⟨hm, rfl⟩ := mem_anyOf.mp hmarker
    obtain ⟨rfl, hall⟩ := mem_greedyMany.mp hrest
    rw [List.append_nil]
    exact ⟨rfl, m, hm, rest, rfl, fun hend => of_decide_eq_true (hall _ hend) rfl⟩
  · rintro ⟨rfl, m, hm, rest, rfl, hend⟩
    have hrest : (rest, []) ∈ greedyMany (· ≠ '\n') rest := by
      refine mem_greedyMany.mpr ⟨(List.append_nil rest).symm, fun c hc => decide_eq_true ?_⟩
      rintro rfl
      exact hend hc
    exact ⟨_, [], ⟨mem_andThen.mpr ⟨m, rest, rest, mem_anyOf.mpr ⟨hm, rfl⟩, hrest, rfl⟩, rfl⟩, rfl⟩

/-- Every attempt on a tail takes all that is left. -/
theorem head?_wholeTails (ms : MarkerSet) (t : Text) :
    (wholeTails ms t).head? = if isTail ms t then some t else none :=
  head?_of_mem_iff fun _ => mem_wholeTails

/-- A blank in front of a tail is taken if it can be. -/
theorem head?_tailAttempts (ms : MarkerSet) (t : Text) : (tailAttempts ms t).head? = tail? ms t := by
  cases t with
  | nil =>
      have hnil : isTail ms [] = false := Bool.eq_false_iff.mpr fun h => isTail_ne_nil h rfl
      simp [tailAttempts, greedyOption, one, tail?, head?_wholeTails, hnil]
  | cons c rest =>
      by_cases hc : Unicode.Property.whiteSpace.contains c = true
      · simp only [tailAttempts, greedyOption, one, hc, if_true, List.cons_append, List.nil_append, List.flatMap_cons,
          List.flatMap_nil, List.append_nil, List.head?_append, head?_wholeTails, tail?, Bool.true_and]
        split
        · rfl
        · rfl
      · simp only [tailAttempts, greedyOption, one, hc, Bool.false_eq_true, if_false, List.nil_append,
          List.flatMap_cons, List.flatMap_nil, List.append_nil, head?_wholeTails, tail?, Bool.false_and]

/-! ## The line -/

/-- The splits of a text behind a number at its start. -/
def numberSplits (ms : MarkerSet) (t : Text) : List (Text × Text) :=
  (numberAttempts t).flatMap fun (head, behind) => (tailAttempts ms behind).map fun tail => (head, tail)

theorem splitNumber?_append (h : IsNumber number) (behind : Text) :
    splitNumber? ms (number ++ behind) = (tail? ms behind).map fun tail => (number, tail) := by
  refine Option.ext fun (number', tail) => ?_
  rw [splitNumber?_eq_some_iff, Option.map_eq_some_iff]
  constructor
  · rintro ⟨h', behind', heq, htail⟩
    obtain ⟨rfl, rfl⟩ := h.append_inj h' heq
    exact ⟨tail, htail, rfl⟩
  · rintro ⟨_, htail, heq⟩
    cases heq
    exact ⟨h, behind, rfl, htail⟩

theorem head?_numberSplits (ms : MarkerSet) (t : Text) : (numberSplits ms t).head? = splitNumber? ms t := by
  cases hattempts : numberAttempts t with
  | nil =>
      rw [numberSplits, hattempts, List.flatMap_nil, List.head?_nil, eq_comm, Option.eq_none_iff_forall_ne_some]
      rintro ⟨number, tail⟩ hsplit
      obtain ⟨hnumber, behind, rfl, _⟩ := splitNumber?_eq_some_iff.mp hsplit
      rw [numberAttempts_append hnumber] at hattempts
      cases hattempts
  | cons x rest =>
      obtain ⟨number, behind⟩ := x
      obtain ⟨hnumber, rfl⟩ := isNumber_of_mem_numberAttempts (hattempts ▸ List.mem_cons_self :
        (number, behind) ∈ numberAttempts t)
      rw [numberSplits, numberAttempts_append hnumber, List.flatMap_cons, List.flatMap_nil, List.append_nil,
        List.head?_map, head?_tailAttempts, splitNumber?_append hnumber]

/-- The splits that pass nothing in front of the number come first. -/
theorem splitAttempts_cons (c : Char) (line : Text) :
    splitAttempts ms (c :: line) = numberSplits ms (c :: line) ++
      if c = '\n' then [] else (splitAttempts ms line).map fun (head, tail) => (c :: head, tail) := by
  by_cases hc : c = '\n'
  · simp [splitAttempts, numberSplits, andThen, lazyMany, hc]
  · simp [splitAttempts, numberSplits, andThen, lazyMany, hc, List.flatMap_assoc, List.flatMap_map, List.map_flatMap,
      Function.comp_def]

/-- A line is split as the first attempt that succeeds splits it. -/
theorem splitLine?_eq_head? (ms : MarkerSet) (passed line : Text) :
    splitLine? ms passed line =
      (splitAttempts ms line).head?.map fun (head, tail) => (passed.reverse ++ head, tail) := by
  induction line generalizing passed with
  | nil => rfl
  | cons c line ih =>
      rw [splitLine?, splitAttempts_cons, List.head?_append, head?_numberSplits]
      cases splitNumber? ms (c :: line) with
      | some x => rfl
      | none =>
          dsimp only
          split
          · rfl
          · rw [ih, Option.none_or, List.head?_map, Option.map_map]
            simp [Function.comp_def]

end Formatter
end MarkerAudit
