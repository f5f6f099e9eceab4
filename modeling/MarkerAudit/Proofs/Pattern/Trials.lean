import MarkerAudit.Pattern.Trials
import MarkerAudit.Proofs.Pattern.Search

/-!
# What a search meets

In whatever order a search tries the ways in which an expression can match, it meets every match and nothing else. So it
finds something just where the expression occurs.
-/

namespace MarkerAudit.Pattern

variable {text pre t : Text} {a b : Trials} {r s : Nat → Nat → Prop} {before : Option Char} {v w : Trial}

/-! ## One way behind another -/

namespace Trial

theorem stay_append (t : Text) : (stay t).append = id := rfl

theorem append_stay (w : Trial) : w.append (stay w.rest) = w := by
  simp only [append, stay, List.append_nil]

theorem append_append (u v : Trial) : (u.append v).append = u.append ∘ v.append := by
  funext w
  simp only [append, Function.comp_apply, List.append_assoc]

end Trial

namespace Trials

theorem mem_andThen : w ∈ a.andThen b before t ↔
    ∃ u ∈ a before t, ∃ v ∈ b (u.taken.getLast?.or before) u.rest, w = u.append v := by
  simp only [andThen, List.mem_flatMap, List.mem_map, eq_comm]

theorem stay_andThen (a : Trials) : stay.andThen a = a := by
  funext before t
  rw [andThen, stay, List.flatMap_singleton, Trial.stay_append, List.map_id]
  rfl

theorem andThen_stay (a : Trials) : a.andThen stay = a := by
  funext before t
  simp [andThen, stay, Trial.append_stay]

theorem andThen_assoc (a b c : Trials) : (a.andThen b).andThen c = a.andThen (b.andThen c) := by
  funext before t
  simp only [andThen, List.flatMap_assoc, List.flatMap_map, List.map_flatMap, List.map_map, Trial.append_append]
  simp only [Trial.append, List.getLast?_append, Option.or_assoc]

/-! ## Trials as stretches of a text -/

/-- The trials take texts apart, and as stretches of one text they are those between related positions. -/
structure Realizes (text : Text) (a : Trials) (r : Nat → Nat → Prop) : Prop where
  split : ∀ {before t w}, w ∈ a before t → t = w.taken ++ w.rest
  leads : ∀ {pre t}, text = pre ++ t → ∀ j,
    (∃ w ∈ a pre.getLast? t, j = (pre ++ w.taken).length) ↔ r pre.length j

namespace Realizes

theorem of_mem (h : a.Realizes text r) (htext : text = pre ++ t) (hw : w ∈ a pre.getLast? t) :
    r pre.length (pre ++ w.taken).length := (h.leads htext _).mp ⟨w, hw, rfl⟩

/-- What is behind a way is a place in the same text. -/
theorem next (h : a.Realizes text r) (htext : text = pre ++ t) (hw : w ∈ a pre.getLast? t) :
    text = (pre ++ w.taken) ++ w.rest := by rw [htext, h.split hw, List.append_assoc]

theorem congr (h : a.Realizes text r) (hrs : ∀ {i j}, r i j ↔ s i j) : a.Realizes text s :=
  ⟨h.split, fun htext j => (h.leads htext j).trans hrs⟩

/-! ## Parts -/

protected theorem stay : stay.Realizes text fun i j => j = i where
  split hw := by rw [List.mem_singleton.mp hw]; rfl
  leads {pre t} htext j := by simp [Trials.stay, Trial.stay]

protected theorem andThen (ha : a.Realizes text r) (hb : b.Realizes text s) :
    (a.andThen b).Realizes text fun i j => ∃ k, r i k ∧ s k j where
  split hw := by
    obtain ⟨u, hu, v, hv, rfl⟩ := mem_andThen.mp hw
    rw [ha.split hu, hb.split hv]
    simp [Trial.append]
  leads {pre t} htext j := by
    simp only [mem_andThen]
    constructor
    · rintro ⟨_, ⟨u, hu, v, hv, rfl⟩, rfl⟩
      rw [← List.getLast?_append] at hv
      have hlast := hb.of_mem (ha.next htext hu) hv
      rw [List.append_assoc] at hlast
      exact ⟨_, ha.of_mem htext hu, hlast⟩
    · rintro ⟨k, hk, hj⟩
      obtain ⟨u, hu, rfl⟩ := (ha.leads htext k).mpr hk
      obtain ⟨v, hv, rfl⟩ := (hb.leads (ha.next htext hu) j).mpr hj
      rw [List.getLast?_append] at hv
      exact ⟨_, ⟨u, hu, v, hv, rfl⟩, by rw [Trial.append, List.append_assoc]⟩

protected theorem orElse (ha : a.Realizes text r) (hb : b.Realizes text s) :
    (a.orElse b).Realizes text fun i j => r i j ∨ s i j where
  split hw := (List.mem_append.mp hw).elim ha.split hb.split
  leads htext j := by
    simp only [Trials.orElse, List.mem_append, or_and_right, exists_or, ha.leads htext, hb.leads htext]

protected theorem grouped (ha : a.Realizes text r) : a.grouped.Realizes text r where
  split {before t w} hw := by
    obtain ⟨u, hu, rfl⟩ := List.mem_map.mp hw
    exact ha.split (w := u) hu
  leads {pre t} htext j := by
    rw [← ha.leads htext j]
    simp [Trials.grouped, Trial.grouped]

protected theorem one (p : Char → Bool) :
    (one p).Realizes text fun i j => j = i + 1 ∧ ∃ c, text[i]? = some c ∧ p c = true where
  split {before t w} hw := by
    cases t with
    | nil => cases hw
    | cons c t =>
        rw [Trials.one] at hw
        split at hw
        · rw [List.mem_singleton.mp hw]
          rfl
        · cases hw
  leads {pre t} htext j := by
    have hget : text[pre.length]? = t.head? := by
      rw [htext, List.getElem?_append_right (Nat.le_refl _), Nat.sub_self, List.head?_eq_getElem?]
    rw [hget]
    cases t with
    | nil => simp [Trials.one]
    | cons c t =>
        by_cases hc : p c = true
        · simp [Trials.one, hc]
        · simp [Trials.one, hc]

protected theorem exactly (ha : a.Realizes text r) (n : Nat) : (a.exactly n).Realizes text (Rounds r n) := by
  induction n with
  | zero => exact .stay
  | succ n ih => exact ha.andThen ih

/-! ## Repetitions -/

theorem mem_atMost_succ {greed : Greed} {n : Nat} : w ∈ a.atMost greed (n + 1) before t ↔ w = .stay t ∨
    ∃ u ∈ a before t, u.taken = [] ∧ w = u ∨
      u.taken ≠ [] ∧ ∃ v ∈ a.atMost greed n (u.taken.getLast?.or before) u.rest, w = u.append v := by
  have hmore : ∀ u : Trial, w ∈ (if u.taken = [] then [u] else
      (a.atMost greed n (u.taken.getLast?.or before) u.rest).map u.append) ↔ u.taken = [] ∧ w = u ∨
        u.taken ≠ [] ∧ ∃ v ∈ a.atMost greed n (u.taken.getLast?.or before) u.rest, w = u.append v := by
    intro u
    by_cases hu : u.taken = []
    · simp [hu]
    · simp [hu, eq_comm]
  cases greed with
  | lazy => simp only [atMost, Trials.orElse, Trials.stay, List.mem_append, List.mem_singleton, List.mem_flatMap, hmore]
  | greedy =>
      simp only [atMost, Trials.orElse, Trials.stay, List.mem_append, List.mem_singleton, List.mem_flatMap, hmore]
      exact or_comm

/-- Rounds that take nothing add nothing but themselves, so that the search may stop at one. -/
protected theorem atMost (ha : a.Realizes text r) (greed : Greed) (n : Nat) :
    (a.atMost greed n).Realizes text fun i j => ∃ m ≤ n, Rounds r m i j := by
  induction n with
  | zero => exact Realizes.stay.congr (by simp [Rounds])
  | succ n ih =>
      constructor
      · intro before t w hw
        rcases mem_atMost_succ.mp hw with rfl | ⟨u, hu, ⟨_, rfl⟩ | ⟨_, v, hv, rfl⟩⟩
        · rfl
        · exact ha.split hu
        · rw [ha.split hu, ih.split hv]
          simp [Trial.append]
      · intro pre t htext j
        simp only [mem_atMost_succ]
        constructor
        · rintro ⟨w, rfl | ⟨u, hu, ⟨_, rfl⟩ | ⟨_, v, hv, rfl⟩⟩, rfl⟩
          · exact ⟨0, Nat.zero_le _, by simp [Rounds, Trial.stay]⟩
          · exact ⟨1, Nat.le_add_left 1 n, _, ha.of_mem htext hu, rfl⟩
          · rw [← List.getLast?_append] at hv
            obtain ⟨m, hm, hrounds⟩ := ih.of_mem (ha.next htext hu) hv
            rw [List.append_assoc] at hrounds
            exact ⟨m + 1, Nat.succ_le_succ hm, _, ha.of_mem htext hu, hrounds⟩
        · rintro ⟨m, hm, hrounds⟩
          induction m with
          | zero => exact ⟨.stay t, .inl rfl, by simpa [Rounds, Trial.stay] using hrounds⟩
          | succ m ihm =>
              obtain ⟨k, hk, hkj⟩ := hrounds
              obtain ⟨u, hu, rfl⟩ := (ha.leads htext k).mpr hk
              by_cases htaken : u.taken = []
              · -- a round that takes nothing may as well be left out
                rw [htaken, List.append_nil] at hkj
                exact ihm (Nat.le_of_succ_le hm) hkj
              · obtain ⟨v, hv, rfl⟩ := (ih.leads (ha.next htext hu) j).mpr ⟨m, Nat.le_of_succ_le_succ hm, hkj⟩
                rw [List.getLast?_append] at hv
                exact ⟨u.append v, .inr ⟨u, hu, .inr ⟨htaken, v, hv, rfl⟩⟩, by rw [Trial.append, List.append_assoc]⟩

/-- Without a limit there are as many rounds as the text has room for. -/
protected theorem upTo (ha : a.Realizes text r) (hr : ∀ i j, r i j → i ≤ j ∧ (j = i ∨ j ≤ text.length))
    (greed : Greed) (most : Option Nat) :
    (a.upTo greed most).Realizes text fun i j => ∃ m, (∀ l, most = some l → m ≤ l) ∧ Rounds r m i j := by
  cases most with
  | some l =>
      refine ⟨(ha.atMost greed l).split, fun htext j => ((ha.atMost greed l).leads htext j).trans ?_⟩
      simp
  | none =>
      refine ⟨fun hw => (ha.atMost greed _).split hw, fun {pre t} htext j => ?_⟩
      refine ((ha.atMost greed (t.length + 1)).leads htext j).trans ?_
      constructor
      · rintro ⟨m, _, hrounds⟩
        exact ⟨m, by nofun, hrounds⟩
      · rintro ⟨_, _, hrounds⟩
        obtain ⟨m, hshort, hle⟩ := hrounds.shorten hr
        rw [htext, List.length_append] at hle
        exact ⟨m, by omega, hshort⟩

end Realizes
end Trials

/-! ## Expressions -/

theorem Atom.realizes (a : Atom) : a.trials.Realizes text (a.Matches text) := by
  cases a with
  | char c => exact (Trials.Realizes.one _).congr (by simp [Atom.Matches])
  | set s => exact .one s.contains
  | look l =>
      constructor
      · intro before t w hw
        simp only [Atom.trials] at hw
        split at hw
        · rw [List.mem_singleton.mp hw]
          rfl
        · cases hw
      · rintro pre t rfl j
        have hbefore : (if pre.length = 0 then none else (pre ++ t)[pre.length - 1]?) = pre.getLast? := by
          cases pre with
          | nil => rfl
          | cons c pre =>
              rw [if_neg (List.length_pos_of_ne_nil (List.cons_ne_nil c pre)).ne', List.getLast?_eq_getElem?,
                List.getElem?_append_left (Nat.sub_lt (List.length_pos_of_ne_nil (List.cons_ne_nil c pre)) Nat.one_pos)]
        have hbehind : (pre ++ t)[pre.length]? = t.head? := by
          rw [List.getElem?_append_right (Nat.le_refl _), Nat.sub_self, List.head?_eq_getElem?]
        rw [Atom.Matches, hbefore, hbehind]
        by_cases hl : l.holds pre.getLast? t.head? = true
        · simp [Atom.trials, Trial.stay, hl]
        · simp [Atom.trials, hl]

namespace Expr

open Ordered (AllOrdered)

theorem realizes_run (atoms : List Atom) :
    (run atoms).trials.Realizes text ((run atoms).MatchesAt text) := by
  induction atoms with
  | nil => exact Trials.Realizes.stay.congr matchesAt_run_nil.symm
  | cons a atoms ih => exact (a.realizes.andThen ih).congr matchesAt_run_cons.symm

theorem realizes_repetition {body : Expr Atom} {least : Nat} {most : Option Nat} (greed : Greed)
    (hroom : ∀ m, most = some m → least ≤ m) (hbody : body.trials.Realizes text (body.MatchesAt text)) :
    (repetition least most greed body).trials.Realizes text ((repetition least most greed body).MatchesAt text) := by
  refine ((hbody.exactly least).andThen
    (hbody.upTo (fun _ _ h => h.le) greed (most.map (· - least)))).congr ?_
  intro i j
  rw [matchesAt_repetition]
  constructor
  · rintro ⟨k, hik, m, hm, hkj⟩
    refine ⟨least + m, Nat.le_add_right least m, ?_, hik.trans hkj⟩
    rintro most rfl
    have hleast := hroom most rfl
    have hmost : m ≤ most - least := hm _ rfl
    omega
  · rintro ⟨n, hleast, hn, hrounds⟩
    obtain ⟨m, rfl⟩ := Nat.exists_eq_add_of_le hleast
    obtain ⟨k, hik, hkj⟩ := hrounds.split
    refine ⟨k, hik, m, ?_, hkj⟩
    intro l hl
    obtain ⟨most, hmost, rfl⟩ := Option.map_eq_some_iff.mp hl
    have := hn most hmost
    omega

mutual
/-- A search meets the matches of an expression and nothing else. -/
theorem realizes : (e : Expr Atom) → e.Ordered → e.trials.Realizes text (e.MatchesAt text)
  | .empty, _ => Trials.Realizes.stay.congr matchesAt_empty.symm
  | .run atoms, _ => realizes_run atoms
  | .capture body, h => (realizes body h).grouped.congr matchesAt_capture.symm
  | .repetition _ _ greed body, h => realizes_repetition greed h.1 (realizes body h.2)
  | .seq parts, h => realizes_inTurn parts h
  | .alt branches, h => realizes_anyOf branches h

theorem realizes_inTurn : (parts : List (Expr Atom)) → AllOrdered parts →
    (trials.inTurn parts).Realizes text ((seq parts).MatchesAt text)
  | [], _ => Trials.Realizes.stay.congr matchesAt_seq_nil.symm
  | e :: rest, h => ((realizes e h.1).andThen (realizes_inTurn rest h.2)).congr matchesAt_seq_cons.symm

theorem realizes_anyOf : (branches : List (Expr Atom)) → AllOrdered branches →
    (trials.anyOf branches).Realizes text ((alt branches).MatchesAt text)
  | [], _ => ⟨nofun, fun _ j => by simp [trials.anyOf, matchesAt_alt]⟩
  | e :: rest, h => ((realizes e h.1).orElse (realizes_anyOf rest h.2)).congr (by
      simp [matchesAt_alt])
end

/-! ## The first match -/

variable {e : Expr Atom} {passed : Text}

/-- The ways to match at a place are what begins there. -/
theorem trials_eq_nil_iff (h : e.Ordered) (htext : text = pre ++ t) :
    e.trials pre.getLast? t = [] ↔ ∀ j, ¬ e.MatchesAt text pre.length j := by
  simp only [List.eq_nil_iff_forall_not_mem, ← (realizes e h).leads htext]
  constructor
  · rintro hnone j ⟨w, hw, _⟩
    exact hnone w hw
  · exact fun hnone w hw => hnone _ ⟨w, hw, rfl⟩

/-- Of what matches in the text behind `pre`, the way is the first to be tried at the earliest place, which is the one
behind `passed`. -/
structure IsFirst (e : Expr Atom) (text pre passed behind : Text) (w : Trial) : Prop where
  eq : text = pre ++ passed ++ behind
  first : (e.trials (pre ++ passed).getLast? behind).head? = some w
  earliest : ∀ i j, pre.length ≤ i → i < (pre ++ passed).length → ¬ e.MatchesAt text i j

variable {behind : Text}

theorem IsFirst.matchesAt (hfirst : e.IsFirst text pre passed behind w) (h : e.Ordered) :
    e.MatchesAt text (pre ++ passed).length (pre ++ passed ++ w.taken).length :=
  (realizes e h).of_mem hfirst.eq (List.mem_of_mem_head? hfirst.first)

theorem isFirst_of_head? (htext : text = pre ++ t) (hhead : (e.trials pre.getLast? t).head? = some w) :
    e.first? pre.getLast? t = some ([], w) ∧ e.IsFirst text pre [] t w := by
  refine ⟨?_, by rw [List.append_nil, htext], by rwa [List.append_nil], fun i j hi hlt => ?_⟩
  · cases t with
    | nil => rw [first?, hhead, Option.map_some]
    | cons c t => rw [first?, hhead]
  · rw [List.append_nil] at hlt
    exact absurd hi (Nat.not_le_of_lt hlt)

/-- A search finds nothing if nothing matches from its place on, and the first way at the earliest place otherwise. -/
theorem first?_cases (h : e.Ordered) (htext : text = pre ++ t) :
    e.first? pre.getLast? t = none ∧ (∀ i j, pre.length ≤ i → i ≤ text.length → ¬ e.MatchesAt text i j) ∨
      ∃ passed behind w, e.first? pre.getLast? t = some (passed, w) ∧ e.IsFirst text pre passed behind w := by
  induction t generalizing pre with
  | nil =>
      cases hhead : (e.trials pre.getLast? []).head? with
      | some w => exact .inr ⟨[], [], w, isFirst_of_head? htext hhead⟩
      | none =>
          refine .inl ⟨by rw [first?, hhead, Option.map_none], fun i j hi hle => ?_⟩
          rw [htext, List.append_nil] at hle
          obtain rfl := Nat.le_antisymm hi hle
          exact (trials_eq_nil_iff h htext).mp (List.head?_eq_none_iff.mp hhead) j
  | cons c t ih =>
      cases hhead : (e.trials pre.getLast? (c :: t)).head? with
      | some w => exact .inr ⟨[], c :: t, w, isFirst_of_head? htext hhead⟩
      | none =>
          have hhere := (trials_eq_nil_iff h htext).mp (List.head?_eq_none_iff.mp hhead)
          have hfrom : ∀ i j, pre.length ≤ i → ((pre ++ [c]).length ≤ i → ¬ e.MatchesAt text i j) →
              ¬ e.MatchesAt text i j := by
            intro i j hi hlater
            rcases Nat.eq_or_lt_of_le hi with rfl | hlt
            · exact hhere j
            · exact hlater (by rwa [List.length_append, List.length_singleton])
          have hstep : e.first? pre.getLast? (c :: t) =
              (e.first? (pre ++ [c]).getLast? t).map fun x => (c :: x.1, x.2) := by
            rw [first?, hhead, List.getLast?_concat]
          have hnext : text = (pre ++ [c]) ++ t := by rw [htext, List.append_assoc, List.singleton_append]
          rw [hstep]
          rcases ih hnext with ⟨hnone, hlater⟩ | ⟨passed, behind, w, hsome, heq, hfirst, hlater⟩
          · exact .inl ⟨by rw [hnone, Option.map_none], fun i j hi hle => hfrom i j hi fun hi => hlater i j hi hle⟩
          · have hpassed : pre ++ [c] ++ passed = pre ++ c :: passed := by
              rw [List.append_assoc, List.singleton_append]
            rw [hpassed] at heq hfirst hlater
            exact .inr ⟨c :: passed, behind, w, by rw [hsome, Option.map_some], heq, hfirst,
              fun i j hi hlt => hfrom i j hi fun hi => hlater i j hi hlt⟩

/-- Something is found just where the expression occurs. -/
theorem isSome_first?_iff (h : e.Ordered) : (e.first? none text).isSome = true ↔ e.Occurs text := by
  have hcases := first?_cases h (List.nil_append text).symm
  rw [List.getLast?_nil] at hcases
  rcases hcases with ⟨hnone, hall⟩ | ⟨passed, behind, w, hsome, hfirst⟩
  · simp only [hnone, Option.isSome_none, Bool.false_eq_true, false_iff]
    rintro ⟨i, j, hi, hij⟩
    exact hall i j (Nat.zero_le i) hi hij
  · have hle : ([] ++ passed).length ≤ text.length := by
      have hlength := congrArg List.length hfirst.eq
      rw [List.length_append] at hlength
      omega
    simp only [hsome, Option.isSome_some, true_iff]
    exact ⟨_, _, hle, hfirst.matchesAt h⟩

/-- An expression that matches at the start of a text only is tried nowhere else. -/
theorem first?_of_anchored (h : ∀ c t, e.trials (some c) t = []) (t : Text) :
    e.first? none t = (e.trials none t).head?.map fun w => ([], w) := by
  have hlater : ∀ c t, e.first? (some c) t = none := by
    intro c t
    induction t generalizing c with
    | nil => rw [first?, h, List.head?_nil, Option.map_none]
    | cons d t ih => rw [first?, h, List.head?_nil, ih, Option.map_none]
  cases t with
  | nil => rw [first?]
  | cons c t =>
      rw [first?, hlater, Option.map_none]
      cases (e.trials none (c :: t)).head? with
      | none => rfl
      | some w => rfl

end Expr
end MarkerAudit.Pattern
