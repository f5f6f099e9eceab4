import Mathlib.Data.Nat.Bits
import MarkerAudit.Pattern.Positions
import MarkerAudit.Proofs.Pattern.Matching

/-!
# Searching by sets of positions

A set of positions that is moved through an expression becomes the set of the positions where matches end that begin in
it. So an expression is found in a text just where it occurs there.
-/

namespace MarkerAudit.Pattern

/-! ## Sets of positions -/

namespace Positions

variable {s t : Positions} {i : Nat}

theorem testBit_ofFlags (flags : List Bool) (i : Nat) : (ofFlags flags).testBit i = flags[i]?.getD false := by
  induction flags generalizing i with
  | nil => rw [ofFlags, List.foldr_nil, Nat.zero_testBit, List.getElem?_nil, Option.getD_none]
  | cons b flags ih =>
      have hcons : ofFlags (b :: flags) = Nat.bit b (ofFlags flags) := by
        rw [Nat.bit_val]
        rfl
      rw [hcons]
      cases i with
      | zero => rw [Nat.testBit_bit_zero, List.getElem?_cons_zero, Option.getD_some]
      | succ i => rw [Nat.testBit_bit_succ, ih, List.getElem?_cons_succ]

theorem testBit_ofFlags_map {α : Type} (p : α → Bool) (xs : List α) :
    (ofFlags (xs.map p)).testBit i = true ↔ ∃ x, xs[i]? = some x ∧ p x = true := by
  rw [testBit_ofFlags, List.getElem?_map]
  cases xs[i]? <;> simp

theorem testBit_upTo (n i : Nat) : (upTo n).testBit i = true ↔ i ≤ n := by
  rw [upTo, Nat.shiftLeft_eq, Nat.one_mul, Nat.testBit_two_pow_sub_one, decide_eq_true_eq]
  omega

theorem ne_zero_iff : s ≠ 0 ↔ ∃ i, s.testBit i = true := by
  constructor
  · exact Nat.exists_testBit_of_ne_zero
  · rintro ⟨i, hi⟩ rfl
    rw [Nat.zero_testBit] at hi
    cases hi

/-- What a union adds to one of its sides. -/
theorem testBit_fresh : ((s ||| t) ^^^ t).testBit i = true ↔ s.testBit i = true ∧ ¬ t.testBit i = true := by
  rw [Nat.testBit_xor, Nat.testBit_or]
  cases s.testBit i <;> cases t.testBit i <;> simp

theorem testBit_or_iff : (s ||| t).testBit i = true ↔ s.testBit i = true ∨ t.testBit i = true := by
  rw [Nat.testBit_or, Bool.or_eq_true]

end Positions

open Positions

/-- A step of a search follows a relation: it leads where a position of the set is related to. -/
def Follows (step : Positions → Positions) (r : Nat → Nat → Prop) : Prop :=
  ∀ s j, (step s).testBit j = true ↔ ∃ i, s.testBit i = true ∧ r i j

variable {step next : Positions → Positions} {r r' : Nat → Nat → Prop} {text : Text} {i j : Nat}

theorem Follows.comp (hstep : Follows step r) (hnext : Follows next r') :
    Follows (fun s => next (step s)) (fun i j => ∃ k, r i k ∧ r' k j) := by
  intro s j
  simp only [hnext (step s), hstep s]
  constructor
  · rintro ⟨k, ⟨i, hi, hik⟩, hkj⟩
    exact ⟨i, hi, k, hik, hkj⟩
  · rintro ⟨i, hi, k, hik, hkj⟩
    exact ⟨k, ⟨i, hi, hik⟩, hkj⟩

/-! ## Atoms -/

theorem Move.testBit_apply (m : Move) (s : Positions) (j : Nat) :
    (m.apply s).testBit j = true ↔
      ∃ i, s.testBit i = true ∧ m.origins.testBit i = true ∧ j = if m.advances then i + 1 else i := by
  obtain ⟨advances, origins⟩ := m
  cases advances with
  | false => simp [Move.apply, Nat.testBit_and]
  | true =>
      cases j with
      | zero => simp [Move.apply]
      | succ j => simp [Move.apply, Nat.testBit_shiftLeft, Nat.testBit_and]

theorem getElem?_neighbours {before behind : Option Char} :
    (neighbours text)[i]? = some (before, behind) ↔
      i ≤ text.length ∧ before = (if i = 0 then none else text[i - 1]?) ∧ behind = text[i]? := by
  have hbefore : (none :: text.map some)[i]? = some before ↔
      i ≤ text.length ∧ before = if i = 0 then none else text[i - 1]? := by
    cases i with
    | zero => simp [eq_comm]
    | succ i =>
        rw [List.getElem?_cons_succ, List.getElem?_map, if_neg (Nat.succ_ne_zero i), Nat.add_sub_cancel,
          Option.map_eq_some_iff]
        constructor
        · rintro ⟨c, hc, rfl⟩
          exact ⟨(List.getElem?_eq_some_iff.mp hc).1, hc.symm⟩
        · rintro ⟨hi, rfl⟩
          exact ⟨text[i], List.getElem?_eq_getElem hi, (List.getElem?_eq_getElem hi).symm⟩
  have hbehind : (text.map some ++ [none])[i]? = some behind ↔ i ≤ text.length ∧ behind = text[i]? := by
    rcases Nat.lt_or_ge i text.length with hi | hi
    · rw [List.getElem?_append_left (by rwa [List.length_map]), List.getElem?_map, List.getElem?_eq_getElem hi]
      simp [Nat.le_of_lt hi, eq_comm]
    · rw [List.getElem?_append_right (by rwa [List.length_map]), List.getElem?_eq_none hi, List.length_map,
        List.getElem?_singleton]
      split
      · simp [show i ≤ text.length by omega, eq_comm]
      · simp [show ¬ i ≤ text.length by omega]
  rw [neighbours, List.getElem?_zip_eq_some, hbefore, hbehind]
  tauto

theorem Atom.move_iff (a : Atom) :
    ((a.move text).origins.testBit i = true ∧ j = if (a.move text).advances then i + 1 else i) ↔
      a.Matches text i j := by
  cases a with
  | char c => simp [Atom.move, Atom.Matches, testBit_ofFlags_map, and_comm]
  | set s => simp [Atom.move, Atom.Matches, testBit_ofFlags_map, and_comm]
  | look l =>
      simp only [Atom.move, Atom.Matches, testBit_ofFlags_map, Prod.exists, getElem?_neighbours]
      constructor
      · rintro ⟨⟨before, behind, ⟨hi, rfl, rfl⟩, hl⟩, hj⟩
        exact ⟨hj, hi, hl⟩
      · rintro ⟨hj, hi, hl⟩
        exact ⟨⟨_, _, ⟨hi, rfl, rfl⟩, hl⟩, hj⟩

/-- Positions move through an atom as its matches lead. -/
theorem Atom.follows_move (a : Atom) : Follows (a.move text).apply (a.Matches text) := by
  intro s j
  simp only [Move.testBit_apply, Atom.move_iff]

theorem Atom.Matches.le {a : Atom} (h : a.Matches text i j) : i ≤ j ∧ (j = i ∨ j ≤ text.length) := by
  cases a with
  | char c =>
      obtain ⟨rfl, hc⟩ := h
      have := (List.getElem?_eq_some_iff.mp hc).1
      omega
  | set s =>
      obtain ⟨rfl, c, hc, _⟩ := h
      have := (List.getElem?_eq_some_iff.mp hc).1
      omega
  | look l =>
      obtain ⟨rfl, _⟩ := h
      omega

/-! ## Rounds -/

/-- A relation applied a number of times. -/
def Rounds (r : Nat → Nat → Prop) : (n : Nat) → Nat → Nat → Prop
  | 0, i, j => j = i
  | n + 1, i, j => ∃ k, r i k ∧ Rounds r n k j

variable {m n : Nat}

theorem Rounds.trans {k : Nat} (h : Rounds r m i k) (h' : Rounds r n k j) : Rounds r (m + n) i j := by
  induction m generalizing i with
  | zero =>
      cases h
      rwa [Nat.zero_add]
  | succ m ih =>
      obtain ⟨l, hl, hrest⟩ := h
      rw [Nat.add_right_comm]
      exact ⟨l, hl, ih hrest⟩

theorem Rounds.split (h : Rounds r (m + n) i j) : ∃ k, Rounds r m i k ∧ Rounds r n k j := by
  induction m generalizing i with
  | zero =>
      rw [Nat.zero_add] at h
      exact ⟨i, rfl, h⟩
  | succ m ih =>
      rw [Nat.add_right_comm] at h
      obtain ⟨l, hl, hrest⟩ := h
      obtain ⟨k, hk, hkj⟩ := ih hrest
      exact ⟨k, ⟨l, hl, hk⟩, hkj⟩

/-- Rounds that neither go back nor pass a limit need be no more than the positions on the way. -/
theorem Rounds.shorten {limit : Nat} (hr : ∀ i j, r i j → i ≤ j ∧ (j = i ∨ j ≤ limit)) (h : Rounds r n i j) :
    ∃ m, Rounds r m i j ∧ m + i ≤ j ∧ (j = i ∨ j ≤ limit) := by
  induction n generalizing i with
  | zero =>
      cases h
      exact ⟨0, rfl, by omega⟩
  | succ n ih =>
      obtain ⟨k, hik, hkj⟩ := h
      obtain ⟨m, hm, hle⟩ := ih hkj
      obtain ⟨hforward, hlimit⟩ := hr i k hik
      rcases Nat.eq_or_lt_of_le hforward with rfl | hlt
      · exact ⟨m, hm, hle⟩
      · exact ⟨m + 1, ⟨k, hik, hm⟩, by omega⟩

theorem Rounds.mem_of_closed {p : Nat → Prop} (h : Rounds r n i j) (hp : ∀ i k, p i → r i k → p k) (hi : p i) :
    p j := by
  induction n generalizing i with
  | zero =>
      cases h
      exact hi
  | succ n ih =>
      obtain ⟨k, hik, hkj⟩ := h
      exact ih hkj (hp i k hi hik)

/-- So many steps reach what so many rounds lead to. -/
theorem Follows.iterate (hstep : Follows step r) (n : Nat) : Follows (iterate step n) (Rounds r n) := by
  induction n with
  | zero =>
      intro s j
      simp [Pattern.iterate, Rounds]
  | succ n ih =>
      intro s j
      rw [Pattern.iterate]
      split
      · rename_i hs
        simp [hs]
      · exact hstep.comp ih s j

/-- Steps from the frontier reach what at most so many rounds lead to from what has been seen, if nothing else that has
been seen leads out of it. -/
theorem Follows.testBit_spread (hstep : Follows step r) (n : Nat) {frontier seen : Positions}
    (hfrontier : ∀ i, frontier.testBit i = true → seen.testBit i = true)
    (hclosed : ∀ i j, seen.testBit i = true → ¬ frontier.testBit i = true → r i j → seen.testBit j = true) (j : Nat) :
    (spread step n frontier seen).testBit j = true ↔ ∃ i, seen.testBit i = true ∧ ∃ m ≤ n, Rounds r m i j := by
  -- what has been seen and is not in the frontier stays closed, whatever the round adds to both
  induction n generalizing frontier seen with
  | zero => simp [spread, Rounds]
  | succ n ih =>
      have hnext : ∀ i k, seen.testBit i = true → r i k →
          seen.testBit k = true ∨ ((step frontier ||| seen) ^^^ seen).testBit k = true := by
        intro i k hi hik
        rw [testBit_fresh, hstep frontier]
        by_cases hk : seen.testBit k = true
        · exact .inl hk
        · refine .inr ⟨⟨i, ?_, hik⟩, hk⟩
          by_contra hnot
          exact hk (hclosed i k hi hnot hik)
      rw [spread]
      split
      · -- nothing is new, so that no number of rounds leads out of what has been seen
        rename_i hnone
        have hinside : ∀ i k, seen.testBit i = true → r i k → seen.testBit k = true := by
          intro i k hi hik
          rcases hnext i k hi hik with hk | hk
          · exact hk
          · rw [hnone, Nat.zero_testBit] at hk
            cases hk
        constructor
        · exact fun hj => ⟨j, hj, 0, Nat.zero_le _, rfl⟩
        · rintro ⟨i, hi, m, _, hm⟩
          exact hm.mem_of_closed hinside hi
      · rw [ih (fun i hi => testBit_or_iff.mpr (.inr hi))
          fun i k hi hold hik => testBit_or_iff.mpr (hnext i k ((testBit_or_iff.mp hi).resolve_right hold) hik)]
        constructor
        · rintro ⟨i, hi, m, hm, hrounds⟩
          rcases testBit_or_iff.mp hi with hi | hi
          · exact ⟨i, hi, m, Nat.le_succ_of_le hm, hrounds⟩
          · obtain ⟨k, hk, hki⟩ := (hstep frontier i).mp (testBit_fresh.mp hi).1
            exact ⟨k, hfrontier k hk, m + 1, Nat.succ_le_succ hm, i, hki, hrounds⟩
        · rintro ⟨i, hi, m, hm, hrounds⟩
          cases m with
          | zero => exact ⟨i, testBit_or_iff.mpr (.inl hi), 0, Nat.zero_le n, hrounds⟩
          | succ m =>
              obtain ⟨k, hik, hkj⟩ := hrounds
              exact ⟨k, testBit_or_iff.mpr (hnext i k hi hik), m, Nat.le_of_succ_le_succ hm, hkj⟩

namespace Expr

/-! ## Expressions whose repetitions have room -/

/-- No repetition asks for more rounds than it allows. -/
def Ordered {α : Type} : Expr α → Prop
  | .empty | .run _ => True
  | .capture body => body.Ordered
  | .repetition least most _ body => (∀ m, most = some m → least ≤ m) ∧ body.Ordered
  | .seq parts => AllOrdered parts
  | .alt branches => AllOrdered branches
where
  /-- This holds of several expressions. -/
  AllOrdered {α : Type} : List (Expr α) → Prop
    | [] => True
    | e :: rest => e.Ordered ∧ AllOrdered rest

open Ordered (AllOrdered)

variable {e body : Expr Atom} {least : Nat} {most : Option Nat} {greed : Greed}

/-- A match does not go back, and it does not leave the text. -/
theorem MatchesAt.le (h : e.MatchesAt text i j) : i ≤ j ∧ (j = i ∨ j ≤ text.length) := by
  induction h with
  | empty i => omega
  | runNil i => omega
  | runCons ha _ ih =>
      have := Atom.Matches.le ha
      omega
  | capture _ ih => exact ih
  | stop _ _ _ i => omega
  | round _ _ _ ih ih' => omega
  | seqNil i => omega
  | seqCons _ _ ih ih' => omega
  | alt _ _ ih => exact ih

/-- A repetition matches so many rounds as it asks for and allows. -/
theorem matchesAt_repetition : (repetition least most greed body).MatchesAt text i j ↔
    ∃ n, least ≤ n ∧ (∀ m, most = some m → n ≤ m) ∧ Rounds (body.MatchesAt text) n i j := by
  constructor
  · intro h
    unfold MatchesAt at h
    generalize he : repetition least most greed body = e at h
    induction h generalizing least most with
    | stop _ _ _ i =>
        cases he
        exact ⟨0, Nat.le_refl 0, fun _ _ => Nat.zero_le _, rfl⟩
    | round hmost hbody _ _ ih =>
        cases he
        obtain ⟨n, hleast, hn, hrounds⟩ := ih rfl
        refine ⟨n + 1, by omega, ?_, _, hbody, hrounds⟩
        rintro m rfl
        have := hn (m - 1) rfl
        have : m ≠ 0 := fun hm => hmost (congrArg some hm)
        omega
    | _ => cases he
  · rintro ⟨n, hleast, hn, hrounds⟩
    induction n generalizing least most i with
    | zero =>
        cases hrounds
        obtain rfl := Nat.le_zero.mp hleast
        exact .stop most greed body _
    | succ n ih =>
        obtain ⟨k, hik, hkj⟩ := hrounds
        refine .round ?_ hik (ih (by omega) ?_ hkj)
        · rintro rfl
          exact absurd (hn 0 rfl) (by omega)
        · intro m hm
          obtain ⟨m, hmost, rfl⟩ := Option.map_eq_some_iff.mp hm
          have := hn m hmost
          omega

/-! ## From positions to positions -/

variable {α β : Type}

theorem mapParts_eq (f : α → β) (es : List (Expr α)) (done : List (Expr β)) :
    map.mapParts f es done = (es.map (map f)).reverse ++ done := by
  induction es generalizing done with
  | nil => rfl
  | cons e es ih => rw [map.mapParts, ih, List.map_cons, List.reverse_cons, List.append_assoc, List.singleton_append]

theorem map_seq (f : α → β) (parts : List (Expr α)) : (seq parts).map f = seq (parts.map (map f)) := by
  rw [map, mapParts_eq, List.append_nil, List.reverse_reverse]

theorem map_alt (f : α → β) (branches : List (Expr α)) : (alt branches).map f = alt (branches.map (map f)) := by
  rw [map, mapParts_eq, List.append_nil, List.reverse_reverse]

theorem follows_run (atoms : List Atom) :
    Follows (((run atoms).map (Atom.move text)).ends text.length) ((run atoms).MatchesAt text) := by
  induction atoms with
  | nil =>
      intro s j
      simp [map, ends, matchesAt_run_nil]
  | cons a atoms ih =>
      intro s j
      simp only [matchesAt_run_cons]
      exact a.follows_move.comp ih s j

/-- A repetition without limit needs no more further rounds than the text has characters, for no match goes back. -/
theorem follows_repetition (hstep : Follows step (body.MatchesAt text))
    (hroom : ∀ m, most = some m → least ≤ m) :
    Follows (fun s => spread step ((most.getD (least + text.length + 1)) - least) (iterate step least s)
      (iterate step least s)) ((repetition least most greed body).MatchesAt text) := by
  intro s j
  rw [hstep.testBit_spread _ (fun _ hi => hi) fun _ _ hi hnot => absurd hi hnot]
  simp only [hstep.iterate least s, matchesAt_repetition]
  constructor
  · rintro ⟨k, ⟨i, hi, hik⟩, m, hm, hkj⟩
    refine ⟨i, hi, least + m, Nat.le_add_right least m, ?_, hik.trans hkj⟩
    rintro most rfl
    have := hroom most rfl
    rw [Option.getD_some] at hm
    omega
  · rintro ⟨i, hi, n, hleast, hn, hrounds⟩
    obtain ⟨m, rfl⟩ := Nat.exists_eq_add_of_le hleast
    obtain ⟨k, hik, hkj⟩ := hrounds.split
    cases most with
    | some most =>
        have := hn most rfl
        exact ⟨k, ⟨i, hi, hik⟩, m, by rw [Option.getD_some]; omega, hkj⟩
    | none =>
        -- rounds that lead nowhere are left out, so that the others are no more than the characters passed
        obtain ⟨m, hshort, hle⟩ := hkj.shorten fun _ _ h => h.le
        exact ⟨k, ⟨i, hi, hik⟩, m, by rw [Option.getD_none]; omega, hshort⟩

mutual
/-- Positions move through an expression as its matches lead. -/
theorem follows_ends : (e : Expr Atom) → e.Ordered →
    Follows ((e.map (Atom.move text)).ends text.length) (e.MatchesAt text)
  | .empty, _ => by
      intro s j
      simp [map, ends, matchesAt_empty]
  | .run atoms, _ => follows_run atoms
  | .capture body, h => by
      intro s j
      simp only [map, ends, matchesAt_capture]
      exact follows_ends body h s j
  | .repetition _ _ _ body, h => follows_repetition (follows_ends body h.2) h.1
  | .seq parts, h => by
      intro s j
      rw [map_seq, ends]
      exact follows_endsInTurn parts h s j
  | .alt branches, h => by
      intro s j
      rw [map_alt, ends, testBit_endsOfAny branches h, Nat.zero_testBit]
      simp

theorem follows_endsInTurn : (parts : List (Expr Atom)) → AllOrdered parts →
    Follows (ends.endsInTurn text.length (parts.map (map (Atom.move text)))) ((seq parts).MatchesAt text)
  | [], _ => by
      intro s j
      simp [ends.endsInTurn, matchesAt_seq_nil]
  | e :: rest, h => by
      intro s j
      simp only [matchesAt_seq_cons]
      exact (follows_ends e h.1).comp (follows_endsInTurn rest h.2) s j

theorem testBit_endsOfAny : (branches : List (Expr Atom)) → AllOrdered branches → ∀ s found j,
    (ends.endsOfAny text.length (branches.map (map (Atom.move text))) s found).testBit j = true ↔
      found.testBit j = true ∨ ∃ i, s.testBit i = true ∧ (alt branches).MatchesAt text i j
  | [], _, s, found, j => by simp [ends.endsOfAny, matchesAt_alt]
  | e :: rest, h, s, found, j => by
      rw [List.map_cons, ends.endsOfAny, testBit_endsOfAny rest h.2, testBit_or_iff, follows_ends e h.1]
      simp only [matchesAt_alt, List.exists_mem_cons_iff, and_or_left, exists_or, or_assoc]
end

/-- An expression is found in a text just where it occurs there. -/
theorem occursIn_iff (h : e.Ordered) : e.occursIn text = true ↔ e.Occurs text := by
  rw [occursIn, decide_eq_true_eq, ne_zero_iff, Occurs]
  simp only [follows_ends e h _, testBit_upTo]
  exact exists_comm

end Expr
end MarkerAudit.Pattern
