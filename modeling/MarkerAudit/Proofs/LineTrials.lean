import MarkerAudit.Proofs.Attempts
import MarkerAudit.Proofs.Pattern.Counts
import MarkerAudit.Proofs.Pattern.Trials

/-!
# Splits as a search for the pattern

The ways to match the pattern of a written line are, part by part, the attempts to split the line. So the first way to
match it takes the line apart as it is split, and replacing what it matches makes the warning.
-/

namespace MarkerAudit

open Pattern (Atom Expr Greed Trial Trials dots lineExpr)

namespace Attempts

/-- The attempts as ways to match without groups. -/
def trials (a : Attempts) : Trials := fun _ t => (a t).map fun (s, rest) => ⟨s, rest, []⟩

variable {p : Char → Bool} {n : Nat} {before : Option Char} {c : Char} {t : Text}

theorem trials_one (p : Char → Bool) : (one p).trials = Trials.one p := by
  funext before t
  cases t with
  | nil => rfl
  | cons c t =>
      rw [trials, one, Trials.one]
      split
      · rfl
      · rfl

theorem trials_andThen (a b : Attempts) : (a.andThen b).trials = a.trials.andThen b.trials := by
  funext before t
  simp [trials, andThen, Trials.andThen, Trial.append, List.map_flatMap, List.flatMap_map, Function.comp_def]

/-- Rounds of one character each go on behind the first if that can be taken. -/
theorem flatMap_one (before : Option Char) (n : Nat) (greed : Greed) (c : Char) (t : Text) :
    ((Trials.one p before (c :: t)).flatMap fun w => if w.taken = [] then [w] else
      ((Trials.one p).atMost greed n (w.taken.getLast?.or before) w.rest).map w.append) =
    if p c then ((Trials.one p).atMost greed n (some c) t).map (Trial.append ⟨[c], t, []⟩) else [] := by
  rw [Trials.one]
  split
  · rw [List.flatMap_singleton, if_neg (List.cons_ne_nil c [])]
    rfl
  · rfl

/-- As many characters as can be taken, or as few. -/
def many (greed : Greed) (p : Char → Bool) : Attempts :=
  match greed with
  | .lazy => lazyMany p
  | .greedy => greedyMany p

theorem atMost_one (greed : Greed) (h : t.length < n) :
    (Trials.one p).atMost greed n before t = (many greed p).trials before t := by
  induction t generalizing before n with
  | nil =>
      obtain ⟨n, rfl⟩ := Nat.exists_eq_add_of_lt h
      cases greed with
      | lazy => rfl
      | greedy => rfl
  | cons c t ih =>
      obtain ⟨n, rfl⟩ := Nat.exists_eq_add_one_of_ne_zero (Nat.ne_zero_of_lt h)
      rw [List.length_cons, Nat.add_lt_add_iff_right] at h
      have hround : (if p c then ((Trials.one p).atMost greed n (some c) t).map (Trial.append ⟨[c], t, []⟩) else []) =
          (if p c then (many greed p t).map fun x => (c :: x.1, x.2) else []).map fun x => ⟨x.1, x.2, []⟩ := by
        rw [ih h]
        split
        · simp [trials, Trial.append, Function.comp_def]
        · rfl
      cases greed with
      | lazy =>
          rw [Trials.atMost]
          dsimp only [Trials.orElse]
          rw [flatMap_one, hround]
          rfl
      | greedy =>
          rw [Trials.atMost]
          dsimp only [Trials.orElse]
          rw [flatMap_one, hround]
          exact (@List.map_append _ _ _ _ [([], c :: t)]).symm

theorem trials_many (greed : Greed) (p : Char → Bool) : (many greed p).trials = (Trials.one p).upTo greed none := by
  funext before t
  exact (atMost_one greed (Nat.lt_succ_self _)).symm

theorem trials_greedyOption (p : Char → Bool) : (greedyOption p).trials = (Trials.one p).upTo .greedy (some 1) := by
  funext before t
  cases t with
  | nil => rfl
  | cons c t =>
      rw [Trials.upTo, Option.getD_some, Trials.atMost]
      dsimp only [Trials.orElse]
      rw [flatMap_one]
      by_cases hc : p c = true
      · simp [trials, greedyOption, one, hc, Trials.atMost, Trials.stay, Trial.stay, Trial.append]
      · simp [trials, greedyOption, one, hc, Trials.stay, Trial.stay]

/-! ## Expressions of one character -/

theorem trials_set (s : CharSet) : (Expr.run [.set s]).trials = (one s.contains).trials := by
  rw [trials_one]
  exact Trials.andThen_stay _

theorem trials_char (c : Char) : (Expr.run [.char c]).trials = (one (· = c)).trials := by
  rw [trials_one]
  exact Trials.andThen_stay _

theorem trials_plus (s : CharSet) : (Expr.repetition 1 none .greedy (.run [.set s])).trials =
    ((one s.contains).andThen (greedyMany s.contains)).trials := by
  rw [trials_andThen, ← many, trials_many, ← trials_one, ← trials_set]
  exact congrArg (Trials.andThen · _) (Trials.andThen_stay _)

theorem trials_option (s : CharSet) : (Expr.repetition 0 (some 1) .greedy (.run [.set s])).trials =
    (greedyOption s.contains).trials := by
  rw [trials_greedyOption, ← trials_one, ← trials_set]
  exact Trials.stay_andThen _

theorem contains_dot_eq : (Pattern.Modes.dot {}).contains = fun c => decide (c ≠ '\n') :=
  funext fun _ => Bool.eq_iff_iff.mpr (Pattern.contains_dot.trans decide_eq_true_iff.symm)

theorem trials_dots (greed : Greed) : (dots greed).trials = (many greed (· ≠ '\n')).trials := by
  rw [trials_many, ← contains_dot_eq, ← trials_one, ← trials_set]
  exact Trials.stay_andThen _

end Attempts

/-! ## Markers -/

namespace Pattern

variable {before : Option Char} {t rest : Text} {w : Trial} {markers : List Text}

theorem Atom.groups_eq_nil_of_mem {a : Atom} (h : w ∈ a.trials before t) : w.groups = [] := by
  have hone : ∀ p : Char → Bool, w ∈ Trials.one p before t → w.groups = [] := by
    intro p hw
    rw [← Attempts.trials_one] at hw
    obtain ⟨x, _, rfl⟩ := List.mem_map.mp hw
    rfl
  cases a with
  | char c => exact hone _ h
  | set s => exact hone _ h
  | look l =>
      simp only [Atom.trials] at h
      split at h
      · rw [List.mem_singleton.mp h]
        rfl
      · cases h

namespace Expr

theorem groups_eq_nil_of_mem_run {atoms : List Atom} (h : w ∈ (run atoms).trials before t) : w.groups = [] := by
  induction atoms generalizing before t w with
  | nil =>
      rw [List.mem_singleton.mp h]
      rfl
  | cons a atoms ih =>
      obtain ⟨u, hu, v, hv, rfl⟩ := Trials.mem_andThen.mp h
      rw [Trial.append, Atom.groups_eq_nil_of_mem hu, ih hv, List.append_nil]

theorem mem_anyOf {branches : List (Expr Atom)} :
    w ∈ trials.anyOf branches before t ↔ ∃ e ∈ branches, w ∈ e.trials before t := by
  induction branches with
  | nil => simp [trials.anyOf]
  | cons e rest ih => rw [trials.anyOf, Trials.orElse, List.mem_append, ih, List.exists_mem_cons_iff]

theorem groups_eq_nil_of_mem_alternation (h : w ∈ (alternation (markers.map plain)).trials before t) :
    w.groups = [] := by
  unfold alternation at h
  rw [flatMap_branches_plain] at h
  split at h
  · rename_i e he
    obtain ⟨m, _, rfl⟩ := List.mem_map.mp (he ▸ List.mem_cons_self : e ∈ markers.map plain)
    exact groups_eq_nil_of_mem_run h
  · split at h
    · unfold ofSet at h
      split at h
      · exact groups_eq_nil_of_mem_run h
      · exact groups_eq_nil_of_mem_run h
    · obtain ⟨_, he, hw⟩ := mem_anyOf.mp h
      obtain ⟨m, _, rfl⟩ := List.mem_map.mp he
      exact groups_eq_nil_of_mem_run hw

/-- Markers of one character each have become one set, so that only the ways are the same and not their number. -/
theorem mem_trials_alternation : w ∈ (alternation (markers.map plain)).trials before t ↔
    w.taken ∈ markers ∧ t = w.taken ++ w.rest ∧ w.groups = [] := by
  have hordered : (alternation (markers.map plain)).Ordered := .alternation fun e he => by
    obtain ⟨m, _, rfl⟩ := List.mem_map.mp he
    trivial
  have hbefore : before.toList.getLast? = before := by cases before <;> rfl
  have hrealizes := @realizes (before.toList ++ t) _ hordered
  have hleads := @Trials.Realizes.leads _ _ _ hrealizes before.toList t rfl
  rw [hbefore] at hleads
  simp only [matchesAt_alternation_plain, List.drop_left, List.length_append] at hleads
  constructor
  · intro hw
    have hsplit := hrealizes.split hw
    obtain ⟨m, hm, ⟨rest, hrest⟩, hlength⟩ := (hleads _).mp ⟨w, hw, rfl⟩
    obtain ⟨rfl, _⟩ := List.append_inj (hsplit.symm.trans hrest.symm) (Nat.add_left_cancel hlength)
    exact ⟨hm, hsplit, groups_eq_nil_of_mem_alternation hw⟩
  · obtain ⟨m, rest, _⟩ := w
    rintro ⟨hm, rfl, rfl⟩
    obtain ⟨v, hv, hlength⟩ := (hleads _).mpr ⟨m, hm, List.prefix_append m rest, rfl⟩
    obtain ⟨htaken, hrest⟩ := List.append_inj (hrealizes.split hv) (Nat.add_left_cancel hlength)
    have hgroups := groups_eq_nil_of_mem_alternation hv
    obtain ⟨_, _, _⟩ := v
    cases htaken
    cases hrest
    cases hgroups
    exact hv

end Expr
end Pattern

namespace Formatter

open Attempts

variable {ms : MarkerSet} {before : Option Char} {line t : Text} {w : Trial}

/-! ## The pattern -/

/-- The group of the head is matched as heads are taken. -/
theorem trials_head : (Expr.capture (.seq [dots .lazy, .run [.char ':'],
      .repetition 1 none .greedy (.run [.set Unicode.Category.decimalNumber]), .run [.char ':']])).trials =
    ((lazyMany (· ≠ '\n')).andThen numberAttempts).trials.grouped := by
  refine congrArg Trials.grouped ?_
  change (dots .lazy).trials.andThen ((Expr.run [.char ':']).trials.andThen
    ((Expr.repetition 1 none .greedy (.run [.set Unicode.Category.decimalNumber])).trials.andThen
      ((Expr.run [.char ':']).trials.andThen .stay))) = _
  simp only [Trials.andThen_stay, trials_dots, many, trials_char, trials_plus, numberAttempts, trials_andThen,
    Trials.andThen_assoc]

/-- The ways to match the group of the tail up to the end. -/
def groupedTails (ms : MarkerSet) : Trials :=
  (Expr.capture (.seq [.alternation (ms.markers.map .plain), dots .greedy])).trials.andThen
    (Expr.run [.look .textEnd]).trials

theorem trials_lineExpr : (lineExpr (.alternation (ms.markers.map .plain))).trials =
    (Expr.run [.look .textStart]).trials.andThen
      (((lazyMany (· ≠ '\n')).andThen numberAttempts).trials.grouped.andThen
        ((greedyOption Unicode.Property.whiteSpace.contains).trials.andThen (groupedTails ms))) := by
  rw [← trials_head, ← trials_option]
  exact congrArg _ (congrArg _ (congrArg _ (congrArg _ (Trials.andThen_stay _))))

/-- A search beyond the start of the line meets nothing. -/
theorem trials_lineExpr_some (c : Char) (t : Text) :
    (lineExpr (.alternation (ms.markers.map .plain))).trials (some c) t = [] := by
  rw [trials_lineExpr]
  rfl

theorem mem_trials_textEnd : w ∈ (Expr.run [.look .textEnd]).trials before t ↔ t = [] ∧ w = .stay t := by
  cases t with
  | nil => simp [Expr.trials, Atom.trials, Pattern.Look.holds, Trials.andThen_stay]
  | cons c t => simp [Expr.trials, Atom.trials, Pattern.Look.holds, Trials.andThen_stay]

/-- Every way takes all that is left, as a group. -/
theorem mem_groupedTails : w ∈ groupedTails ms before t ↔ w = ⟨t, [], [t]⟩ ∧ isTail ms t = true := by
  have hbody : (Expr.capture (.seq [.alternation (ms.markers.map .plain), dots .greedy])).trials =
      ((Expr.alternation (ms.markers.map .plain)).trials.andThen (greedyMany (· ≠ '\n')).trials).grouped := by
    rw [← many, ← trials_dots]
    exact congrArg _ (congrArg _ (Trials.andThen_stay _))
  simp only [groupedTails, hbody, Trials.mem_andThen, Trials.grouped, List.mem_map, mem_trials_textEnd,
    Pattern.Expr.mem_trials_alternation, isTail_iff_exists]
  constructor
  · rintro ⟨_, ⟨_, ⟨⟨m, _, _⟩, ⟨hm, rfl, rfl⟩, _, hrest, rfl⟩, rfl⟩, _, ⟨hnil, rfl⟩, rfl⟩
    obtain ⟨⟨rest, left⟩, htaken, rfl⟩ := List.mem_map.mp hrest
    obtain ⟨rfl, hall⟩ := mem_greedyMany.mp htaken
    cases show left = [] from hnil
    refine ⟨by simp [Trial.append, Trial.grouped, Trial.stay], m, hm, rest, ?_, fun h => ?_⟩
    · rw [List.append_nil]
    · exact of_decide_eq_true (hall _ h) rfl
  · rintro ⟨rfl, m, hm, rest, rfl, hend⟩
    have hrest : (rest, []) ∈ greedyMany (· ≠ '\n') rest := by
      refine mem_greedyMany.mpr ⟨(List.append_nil rest).symm, fun c hc => decide_eq_true ?_⟩
      rintro rfl
      exact hend hc
    exact ⟨_, ⟨_, ⟨⟨m, rest, []⟩, ⟨hm, rfl, rfl⟩, _, List.mem_map.mpr ⟨_, hrest, rfl⟩, rfl⟩, rfl⟩, _, ⟨rfl, rfl⟩,
      by simp [Trial.append, Trial.grouped, Trial.stay]⟩

theorem head?_groupedTails (ms : MarkerSet) (before : Option Char) (t : Text) :
    (groupedTails ms before t).head? = if isTail ms t then some ⟨t, [], [t]⟩ else none :=
  head?_of_mem_iff fun _ => mem_groupedTails

/-- A gap is tried before none, and the first way to go on has the tail as its group. -/
theorem head?_gap_andThen_groupedTails (ms : MarkerSet) (before : Option Char) (t : Text) :
    (((greedyOption Unicode.Property.whiteSpace.contains).trials.andThen (groupedTails ms)) before t).head?.map
      (fun w => (w.groups, w.rest)) = (tailAttempts ms t).head?.map fun tail => ([tail], []) := by
  rw [Trials.andThen, trials, List.flatMap_map, tailAttempts]
  refine head?_flatMap_congr fun x _ => ?_
  obtain ⟨gap, rest⟩ := x
  rw [List.head?_map, head?_groupedTails, head?_wholeTails]
  dsimp only
  cases isTail ms rest with
  | false => rfl
  | true => rfl

/-- The first way to match the line has the parts of the first split as its groups, and leaves nothing behind. -/
theorem head?_trials_lineExpr (ms : MarkerSet) (line : Text) :
    ((lineExpr (.alternation (ms.markers.map .plain))).trials none line).head?.map (fun w => (w.groups, w.rest)) =
      (splitAttempts ms line).head?.map fun (head, tail) => ([head, tail], []) := by
  have hstart : (Expr.run [.look .textStart]).trials none line = Trials.stay none line := rfl
  rw [trials_lineExpr, Trials.andThen, hstart, ← Trials.andThen, Trials.stay_andThen, Trials.andThen, Trials.grouped,
    trials, List.map_map, List.flatMap_map, splitAttempts]
  refine head?_flatMap_congr fun x _ => ?_
  obtain ⟨head, behind⟩ := x
  have htail := congrArg (Option.map fun x : List Text × Text => (head :: x.1, x.2))
    (head?_gap_andThen_groupedTails ms (head.getLast?.or none) behind)
  simp only [List.head?_map, Option.map_map] at htail ⊢
  exact htail

/-- A written line becomes a warning by replacing what its pattern matches first. -/
theorem replaceFirst_lineExpr (ms : MarkerSet) (line : Text) (replacement : List Text → Text) :
    (lineExpr (.alternation (ms.markers.map .plain))).replaceFirst replacement line =
      match (splitAttempts ms line).head? with
      | some (head, tail) => replacement [head, tail]
      | none => line := by
  have hhead := head?_trials_lineExpr ms line
  rw [Expr.replaceFirst, Expr.first?_of_anchored trials_lineExpr_some]
  cases hsplit : (splitAttempts ms line).head? with
  | none =>
      rw [hsplit, Option.map_none, Option.map_eq_none_iff] at hhead
      rw [hhead]
      rfl
  | some x =>
      rw [hsplit, Option.map_some, Option.map_eq_some_iff] at hhead
      obtain ⟨w, hw, hparts⟩ := hhead
      obtain ⟨hgroups, hrest⟩ := Prod.mk.inj hparts
      rw [hw, Option.map_some]
      simp only [hgroups, hrest, List.nil_append, List.append_nil]

end Formatter
end MarkerAudit
