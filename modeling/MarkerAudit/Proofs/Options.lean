import MarkerAudit.Options
import MarkerAudit.Proofs.PathFilter
import MarkerAudit.Proofs.Utf8

/-!
# Options as they are spelled

An option with a value can be spelled in several ways. However a sequence of options is spelled, reading it gives the
values of each option whole and in order, and the settings that follow hold a rule for each pattern.
-/

namespace MarkerAudit

open Ascii

namespace OptionName

/-- The options that may be given more than once. -/
def Repeatable (o : OptionName) : Prop := o = .includePattern ∨ o = .excludePattern ∨ o = .keyword

instance (o : OptionName) : Decidable o.Repeatable := inferInstanceAs (Decidable (_ ∨ _))

end OptionName

namespace Options

/-- One option of a command line, with its value if it has one. -/
inductive Setting
  | includePattern (v : Text)
  | excludePattern (v : Text)
  | keyword (v : Text)
  | format (f : ReportFormat)
  | mode (m : SearchMode)
  | verbose
deriving DecidableEq, Repr

namespace Setting

/-- The option that is set. -/
def name : Setting → OptionName
  | .includePattern _ => .includePattern
  | .excludePattern _ => .excludePattern
  | .keyword _ => .keyword
  | .format _ => .format
  | .mode _ => .mode
  | .verbose => .verbose

/-- The value as it is written. -/
def value : Setting → Text
  | .includePattern v | .excludePattern v | .keyword v => v
  | .format f => f.word
  | .mode m => m.word
  | .verbose => []

/-- The options once this one is set too. -/
def apply (o : Options) : Setting → Options
  | .includePattern v => { o with includes := o.includes ++ [v] }
  | .excludePattern v => { o with excludes := o.excludes ++ [v] }
  | .keyword v => { o with keywords := o.keywords ++ [v] }
  | .format f => { o with format := f }
  | .mode m => { o with mode := m }
  | .verbose => { o with verbose := true }

end Setting

/-- The arguments that spell an option: its value is attached to its long or short name, or is an argument of its own
and does not look like an option. -/
inductive Spells : Setting → List Bytes → Prop
  | attached (s : Setting) (hs : s.name ≠ .verbose) :
      Spells s [Utf8.encode ("--".toList ++ s.name.long ++ '=' :: s.value)]
  | joined (s : Setting) (hs : s.name ≠ .verbose) :
      Spells s [Utf8.encode ('-' :: s.name.short :: '=' :: s.value)]
  | glued (s : Setting) (hs : s.name ≠ .verbose) (hne : s.value ≠ []) (hv : s.value.head? ≠ some '=') :
      Spells s [Utf8.encode ('-' :: s.name.short :: s.value)]
  | apart (s : Setting) (hs : s.name ≠ .verbose) (hv : s.value.head? ≠ some '-') :
      Spells s [Utf8.encode ['-', s.name.short], Utf8.encode s.value]
  | longApart (s : Setting) (hs : s.name ≠ .verbose) (hv : s.value.head? ≠ some '-') :
      Spells s [Utf8.encode ("--".toList ++ s.name.long), Utf8.encode s.value]
  | short : Spells .verbose [Utf8.encode "-v".toList]
  | long : Spells .verbose [Utf8.encode "--verbose".toList]

/-- The arguments that spell options one after another. -/
inductive SpellsAll : List Setting → List Bytes → Prop
  | nil : SpellsAll [] []
  | cons {s : Setting} {settings : List Setting} {args rest : List Bytes} :
      Spells s args → SpellsAll settings rest → SpellsAll (s :: settings) (args ++ rest)

/-- The values of one option, in order. -/
def valuesOf (o : OptionName) (settings : List Setting) : List Text :=
  (settings.filter (·.name = o)).map Setting.value

/-! ## One argument -/

variable {r r₁ : Reading} {o : OptionName} {s : Setting} {v : Bytes} {rest : List Bytes}

theorem decode?_encode (t : Text) : Utf8.decode? (Utf8.encode t) = some t := Utf8.decode?_eq_some_iff.mpr rfl

theorem head?_encode_ne {t : Text} {b : UInt8} (hb : b < 0x80) (h : t.head? ≠ some (Char.ofNat b.toNat)) :
    (Utf8.encode t).head? ≠ some b := by
  intro hhead
  obtain ⟨bytes, hbytes⟩ := List.head?_eq_some_iff.mp hhead
  rw [← Utf8.decode_encode t, hbytes, Utf8.decode_cons_ascii hb] at h
  exact h rfl

/-- The name of an option behind two dashes ends at the first equals sign. -/
theorem readLong_attached (ho : o.valueName?.isSome = true) (v : Bytes) (r : Reading) :
    readLong (Utf8.encode o.long ++ equalsSign :: v) r = r.open o (some v) := by
  have hsplit : splitValue (Utf8.encode o.long ++ equalsSign :: v) = (Utf8.encode o.long, some v) := by
    cases o <;> rfl
  have hname : OptionName.ofLong? o.long = some o := by cases o <;> rfl
  simp only [readLong, hsplit, decode?_encode, Option.bind_some, hname, ho, if_true]

theorem readLong_bare (o : OptionName) (r : Reading) :
    readLong (Utf8.encode o.long) r = if o.valueName?.isSome then r.open o none else r.switch o true := by
  have hsplit : splitValue (Utf8.encode o.long) = (Utf8.encode o.long, none) := by cases o <;> rfl
  have hname : OptionName.ofLong? o.long = some o := by cases o <;> rfl
  simp only [readLong, hsplit, decode?_encode, Option.bind_some, hname]

/-- The value behind a letter. -/
def attachedValue (bytes : Bytes) : Option Bytes :=
  if bytes.isEmpty then none else some ((dropPrefix? bytes [equalsSign]).getD bytes)

theorem attachedValue_equalsSign (v : Bytes) : attachedValue (equalsSign :: v) = some v := by
  have hcut : dropPrefix? (equalsSign :: v) [equalsSign] = some v := dropPrefix?_eq_some_iff.mpr rfl
  rw [attachedValue, hcut]
  rfl

theorem attachedValue_of_ne (hne : v ≠ []) (hv : v.head? ≠ some equalsSign) : attachedValue v = some v := by
  have hwhole : dropPrefix? v [equalsSign] = none := by
    rw [Option.eq_none_iff_forall_ne_some]
    intro bytes hcut
    rw [dropPrefix?_eq_some_iff] at hcut
    exact hv (by rw [hcut]; rfl)
  rw [attachedValue, if_neg (mt List.isEmpty_iff.mp hne), hwhole, Option.getD_none]

theorem readShort_letter (o : OptionName) (n : Nat) (bytes : Bytes) (r : Reading) :
    readShort (n + 1) (Utf8.encode [o.short] ++ bytes) r =
      if o.valueName?.isSome then r.open o (attachedValue bytes)
      else match r.switch o false with
        | .error e => .error e
        | .ok r => readShort n bytes r := by
  have hletter : firstChar (Utf8.encode [o.short] ++ bytes) = .inr (o.short, bytes) := by cases o <;> rfl
  have hname : OptionName.ofShort? o.short = some o := by cases o <;> rfl
  have hne : (Utf8.encode [o.short] ++ bytes).isEmpty = false := by cases o <;> rfl
  rw [readShort, hne, if_neg Bool.false_ne_true, hletter]
  dsimp only
  rw [hname]
  rfl

theorem readShort_value (ho : o.valueName?.isSome = true) (n : Nat) (bytes : Bytes) (r : Reading) :
    readShort (n + 1) (Utf8.encode [o.short] ++ bytes) r = r.open o (attachedValue bytes) := by
  rw [readShort_letter, if_pos ho]

theorem readFrom_long (o : OptionName) (bytes : Bytes) (rest : List Bytes) (r : Reading) :
    readFrom ((hyphen :: hyphen :: (Utf8.encode o.long ++ bytes)) :: rest) r =
      match readLong (Utf8.encode o.long ++ bytes) r with
      | .error e => .error e
      | .ok r => readFrom rest r := by
  cases o <;> rfl

theorem readFrom_short (o : OptionName) (bytes : Bytes) (rest : List Bytes) (r : Reading) :
    readFrom ((hyphen :: (Utf8.encode [o.short] ++ bytes)) :: rest) r =
      match readShort (bytes.length + 1) (Utf8.encode [o.short] ++ bytes) r with
      | .error e => .error e
      | .ok r => readFrom rest r := by
  cases o <;> rfl

/-- An argument that does not look like an option is the value of the option that waits for one. -/
theorem readFrom_value (h : v.head? ≠ some hyphen) (hwaiting : r.waiting = some (o, none)) (rest : List Bytes) :
    readFrom (v :: rest) r = readFrom rest { r with waiting := some (o, some v) } := by
  rw [readFrom, hwaiting]
  · rintro rfl
    exact h rfl
  · rintro _ rfl
    exact h rfl
  · rintro _ _ rfl
    exact h rfl

/-! ## One option -/

/-- What has been read once an option is taken too. -/
def Reading.set (r : Reading) (s : Setting) : Reading := ⟨s.apply r.options, addUse r.used s.name, none⟩

theorem valueName?_isSome (hs : s.name ≠ .verbose) : s.name.valueName?.isSome = true := by
  cases s with
  | verbose => exact absurd rfl hs
  | _ => rfl

theorem choiceValue_of_word {α : Type} {ofWord? : Text → Option α} {word : Text} {a : α} (h : ofWord? word = some a)
    (o : OptionName) : choiceValue o ofWord? (Utf8.encode word) = .ok a := by
  simp only [choiceValue, decode?_encode, Option.bind_some, h]

/-- A value that is given for an option that may be given is taken whole. -/
theorem take_setting (hfresh : s.name.Repeatable ∨ s.name ∉ r.used) :
    r.take s.name (Utf8.encode s.value) = .ok (r.set s) := by
  cases s with
  | includePattern v | excludePattern v | keyword v =>
      simp only [Reading.take, Setting.name, Setting.value, textValue, decode?_encode]
      rfl
  | format f =>
      have hunused : r.used.contains .format = false := by simpa [OptionName.Repeatable, Setting.name] using hfresh
      have hword : ReportFormat.ofWord? f.word = some f := by cases f <;> rfl
      simp only [Reading.take, Setting.name, Setting.value, choiceValue_of_word hword, hunused, Bool.and_false]
      rfl
  | mode m =>
      have hunused : r.used.contains .mode = false := by simpa [OptionName.Repeatable, Setting.name] using hfresh
      have hword : SearchMode.ofWord? m.word = some m := by cases m <;> rfl
      simp only [Reading.take, Setting.name, Setting.value, choiceValue_of_word hword, hunused, Bool.and_false]
      rfl
  | verbose =>
      have hunused : r.used.contains .verbose = false := by simpa [OptionName.Repeatable, Setting.name] using hfresh
      simp only [Reading.take, Setting.name, hunused, Bool.and_false]
      rfl

theorem open_some (hsettle : r.settle = .ok r₁) (hfresh : s.name.Repeatable ∨ s.name ∉ r₁.used) :
    r.open s.name (some (Utf8.encode s.value)) = .ok (r₁.set s) := by
  simp only [Reading.open, hsettle, take_setting hfresh]

theorem open_none (hsettle : r.settle = .ok r₁) (o : OptionName) :
    r.open o none = .ok { r₁ with waiting := some (o, none) } := by
  simp only [Reading.open, hsettle]

theorem switch_verbose (hsettle : r.settle = .ok r₁) (hfresh : OptionName.verbose ∉ r₁.used) (long : Bool) :
    r.switch .verbose long = .ok (r₁.set .verbose) := by
  have htake : r₁.take .verbose [] = .ok (r₁.set .verbose) := take_setting (s := .verbose) (.inr hfresh)
  simp only [Reading.switch, hsettle, htake]

theorem encode_long_attached (o : OptionName) (value : Text) :
    Utf8.encode ("--".toList ++ o.long ++ '=' :: value) =
      hyphen :: hyphen :: (Utf8.encode o.long ++ equalsSign :: Utf8.encode value) := by
  rw [Utf8.encode_append, Utf8.encode_append, List.append_assoc]
  rfl

theorem encode_long_bare (o : OptionName) :
    Utf8.encode ("--".toList ++ o.long) = hyphen :: hyphen :: (Utf8.encode o.long ++ []) := by
  rw [Utf8.encode_append, List.append_nil]
  rfl

theorem encode_short (o : OptionName) (t : Text) :
    Utf8.encode ('-' :: o.short :: t) = hyphen :: (Utf8.encode [o.short] ++ Utf8.encode t) := by
  cases o <;> rfl

/-- However an option is spelled, reading goes on behind it with the option taken, or waiting to be. -/
theorem readFrom_spells {args : List Bytes} (h : Spells s args) (hsettle : r.settle = .ok r₁)
    (hfresh : s.name.Repeatable ∨ s.name ∉ r₁.used) (rest : List Bytes) :
    ∃ r', readFrom (args ++ rest) r = readFrom rest r' ∧ r'.settle = .ok (r₁.set s) := by
  have hdash : s.value.head? ≠ some '-' → (Utf8.encode s.value).head? ≠ some hyphen :=
    head?_encode_ne (b := hyphen) (by decide)
  cases h with
  | attached s hs =>
      refine ⟨r₁.set s, ?_, rfl⟩
      rw [List.singleton_append, encode_long_attached, readFrom_long, readLong_attached (valueName?_isSome hs),
        open_some hsettle hfresh]
  | joined s hs =>
      have hvalue : Utf8.encode ('=' :: s.value) = equalsSign :: Utf8.encode s.value := rfl
      refine ⟨r₁.set s, ?_, rfl⟩
      rw [List.singleton_append, encode_short, readFrom_short, readShort_value (valueName?_isSome hs), hvalue,
        attachedValue_equalsSign, open_some hsettle hfresh]
  | glued s hs hne hv =>
      have hbytes : Utf8.encode s.value ≠ [] := by
        obtain ⟨b, bytes, hbytes, _⟩ := Utf8.encode_eq_cons hne
        rw [hbytes]
        exact List.cons_ne_nil b bytes
      have hequals : (Utf8.encode s.value).head? ≠ some equalsSign := head?_encode_ne (by decide) hv
      refine ⟨r₁.set s, ?_, rfl⟩
      rw [List.singleton_append, encode_short, readFrom_short, readShort_value (valueName?_isSome hs),
        attachedValue_of_ne hbytes hequals, open_some hsettle hfresh]
  | apart s hs hv =>
      -- the value is looked at only when the next option, or the end, is reached
      refine ⟨{ r₁ with waiting := some (s.name, some (Utf8.encode s.value)) }, ?_, take_setting hfresh⟩
      rw [List.cons_append, encode_short, readFrom_short, readShort_value (valueName?_isSome hs)]
      simp only [Utf8.encode_nil, attachedValue, List.isEmpty_nil, if_true, open_none hsettle]
      exact readFrom_value (hdash hv) rfl rest
  | longApart s hs hv =>
      refine ⟨{ r₁ with waiting := some (s.name, some (Utf8.encode s.value)) }, ?_, take_setting hfresh⟩
      rw [List.cons_append, encode_long_bare, readFrom_long, List.append_nil, readLong_bare,
        if_pos (valueName?_isSome hs), open_none hsettle]
      exact readFrom_value (hdash hv) rfl rest
  | short =>
      have hunused : OptionName.verbose ∉ r₁.used := hfresh.resolve_left (by decide)
      refine ⟨r₁.set .verbose, ?_, rfl⟩
      have hletter := readFrom_short .verbose [] rest r
      rw [readShort_letter, switch_verbose hsettle hunused] at hletter
      exact hletter
  | long =>
      have hunused : OptionName.verbose ∉ r₁.used := hfresh.resolve_left (by decide)
      refine ⟨r₁.set .verbose, ?_, rfl⟩
      have hword := readFrom_long .verbose [] rest r
      rw [List.append_nil, readLong_bare, switch_verbose hsettle hunused] at hword
      exact hword

/-! ## A command line -/

variable {settings : List Setting} {args : List Bytes}

theorem count_addUse_append_le (used : List OptionName) (o p : OptionName) (names : List OptionName) :
    (addUse used o ++ names).count p ≤ (used ++ o :: names).count p := by
  rw [addUse]
  split
  · exact ((List.sublist_cons_self o names).append_left used).count_le p
  · rw [List.append_assoc, List.singleton_append]

/-- Reading options one after another takes each of them in its turn. -/
theorem readFrom_spellsAll (h : SpellsAll settings args) (hsettle : r.settle = .ok r₁)
    (honce : ∀ o : OptionName, ¬ o.Repeatable → (r₁.used ++ settings.map Setting.name).count o ≤ 1) :
    readFrom args r = .ok (settings.foldl Setting.apply r₁.options) := by
  -- what is in use counts as given, so that taking an option only moves it from the one list to the other
  induction h generalizing r r₁ with
  | nil => rw [readFrom, hsettle]; rfl
  | @cons s settings args rest hspells _ ih =>
      have hfresh : s.name.Repeatable ∨ s.name ∉ r₁.used := by
        refine Classical.or_iff_not_imp_left.mpr fun hrepeatable hused => ?_
        have hcount := honce s.name hrepeatable
        rw [List.map_cons, List.count_append, List.count_cons_self] at hcount
        have hpos := List.count_pos_iff.mpr hused
        omega
      obtain ⟨r', hread, hsettle'⟩ := readFrom_spells hspells hsettle hfresh rest
      rw [hread, ih hsettle', List.foldl_cons]
      · rfl
      · exact fun o ho => (count_addUse_append_le _ _ _ _).trans (honce o ho)

/-- The values of an option that may be given more than once. -/
def listed (o : Options) : OptionName → List Text
  | .includePattern => o.includes
  | .excludePattern => o.excludes
  | .keyword => o.keywords
  | _ => []

theorem listed_apply {n : OptionName} (hn : n.Repeatable) (s : Setting) (o : Options) :
    (s.apply o).listed n = o.listed n ++ valuesOf n [s] := by
  rcases hn with rfl | rfl | rfl
  all_goals cases s <;> simp [listed, Setting.apply, valuesOf, Setting.name, Setting.value]

/-- What may be given more than once is gathered in the order in which it is given. -/
theorem listed_foldl_apply {n : OptionName} (hn : n.Repeatable) (settings : List Setting) (o : Options) :
    (settings.foldl Setting.apply o).listed n = o.listed n ++ valuesOf n settings := by
  induction settings generalizing o with
  | nil => exact (List.append_nil _).symm
  | cons s settings ih =>
      have hvalues : valuesOf n (s :: settings) = valuesOf n [s] ++ valuesOf n settings := by
        rw [valuesOf, valuesOf, valuesOf, ← List.map_append, ← List.filter_append, List.singleton_append]
      rw [List.foldl_cons, ih, listed_apply hn, hvalues, List.append_assoc]

section

variable {α : Type} {field : Options → α} {n : OptionName}

theorem foldl_apply_of_not_given (hkeeps : ∀ s : Setting, s.name ≠ n → ∀ o, field (s.apply o) = field o)
    (h : ∀ s ∈ settings, s.name ≠ n) (o : Options) : field (settings.foldl Setting.apply o) = field o := by
  induction settings generalizing o with
  | nil => rfl
  | cons s settings ih =>
      obtain ⟨hs, h⟩ := List.forall_mem_cons.mp h
      rw [List.foldl_cons, ih h, hkeeps s hs]

/-- What may be given only once is as it is given, whatever is given in front of it and behind it. -/
theorem foldl_apply_of_given (hkeeps : ∀ s : Setting, s.name ≠ n → ∀ o, field (s.apply o) = field o)
    (hs : s ∈ settings) (hn : s.name = n) {a : α} (hsets : ∀ o, field (s.apply o) = a)
    (honce : (settings.map Setting.name).count n ≤ 1) (o : Options) : field (settings.foldl Setting.apply o) = a := by
  obtain ⟨before, behind, rfl⟩ := List.append_of_mem hs
  have hbehind : ∀ s ∈ behind, s.name ≠ n := by
    intro s' hs' hn'
    have hpos := List.count_pos_iff.mpr (hn' ▸ List.mem_map_of_mem (f := Setting.name) hs')
    rw [List.map_append, List.map_cons, hn, List.count_append, List.count_cons_self] at honce
    omega
  rw [List.foldl_append, List.foldl_cons, foldl_apply_of_not_given hkeeps hbehind, hsets]

end

/-- The options hold what is set: whole values in their order, and for what may be set only once its value, or the one
that is usual. -/
structure Holds (o : Options) (settings : List Setting) : Prop where
  includes : o.includes = valuesOf .includePattern settings
  excludes : o.excludes = valuesOf .excludePattern settings
  keywords : o.keywords = valuesOf .keyword settings
  format : ∀ f, .format f ∈ settings → o.format = f
  usualFormat : (∀ f, .format f ∉ settings) → o.format = .plain
  mode : ∀ m, .mode m ∈ settings → o.mode = m
  usualMode : (∀ m, .mode m ∉ settings) → o.mode = .auto
  verbose : o.verbose = true ↔ .verbose ∈ settings

theorem holds_foldl_apply (honce : ∀ o : OptionName, ¬ o.Repeatable → (settings.map Setting.name).count o ≤ 1) :
    (settings.foldl Setting.apply {}).Holds settings := by
  have hformat : ∀ s : Setting, s.name ≠ .format → ∀ o, (s.apply o).format = o.format := by
    intro s hs o
    cases s with
    | format f => exact absurd rfl hs
    | _ => rfl
  have hmode : ∀ s : Setting, s.name ≠ .mode → ∀ o, (s.apply o).mode = o.mode := by
    intro s hs o
    cases s with
    | mode m => exact absurd rfl hs
    | _ => rfl
  have hverbose : ∀ s : Setting, s.name ≠ .verbose → ∀ o, (s.apply o).verbose = o.verbose := by
    intro s hs o
    cases s with
    | verbose => exact absurd rfl hs
    | _ => rfl
  constructor
  case includes => exact listed_foldl_apply (n := .includePattern) (.inl rfl) settings {}
  case excludes => exact listed_foldl_apply (n := .excludePattern) (.inr (.inl rfl)) settings {}
  case keywords => exact listed_foldl_apply (n := .keyword) (.inr (.inr rfl)) settings {}
  case format => exact fun f hf => foldl_apply_of_given hformat hf rfl (fun _ => rfl) (honce .format (by decide)) {}
  case mode => exact fun m hm => foldl_apply_of_given hmode hm rfl (fun _ => rfl) (honce .mode (by decide)) {}
  case usualFormat =>
      refine fun hnone => foldl_apply_of_not_given hformat (fun s hs hname => ?_) {}
      cases s with
      | format f => exact hnone f hs
      | _ => cases hname
  case usualMode =>
      refine fun hnone => foldl_apply_of_not_given hmode (fun s hs hname => ?_) {}
      cases s with
      | mode m => exact hnone m hs
      | _ => cases hname
  case verbose =>
      constructor
      · intro hset
        by_contra hnone
        rw [foldl_apply_of_not_given hverbose (fun s hs hname => ?_) {}] at hset
        · cases hset
        · cases s with
          | verbose => exact hnone hs
          | _ => cases hname
      · exact fun hs => foldl_apply_of_given hverbose hs rfl (fun _ => rfl) (honce .verbose (by decide)) {}

end Options

/-! ## The settings that follow -/

theorem Settings.markers_of_markersOf {keywords : List Text} {ms : MarkerSet} (h : markersOf keywords = .ok ms) :
    ms.markers = if keywords = [] then MarkerSet.standard.markers else keywords := by
  cases keywords with
  | nil =>
      cases h
      rfl
  | cons k keywords =>
      rw [markersOf, if_neg (by simp), MarkerSet.ofList?] at h
      split at h
      · cases h
      · cases hpattern : Pattern.ofText (MarkerSet.alternation (k :: keywords)) with
        | error e =>
            rw [hpattern] at h
            cases h
        | ok p =>
            rw [hpattern] at h
            cases h
            rfl

/-- The filter has the rule for a tool called `name` first, behind it one that drops paths for each exclude, and behind
those one that keeps paths for each include. -/
structure PathFilter.HasRules (f : PathFilter) (name : Text) (includes excludes : List Text) : Prop where
  rules : f.rules = f.excludes ++ f.includes
  dropping : ∃ self dropping, Rule.selfExclusion name = .ok self ∧ f.excludes = self :: dropping ∧
    List.Forall₂ (fun source r => Rule.ofText .drop source = .ok r) excludes dropping
  keeping : List.Forall₂ (fun source r => Rule.ofText .keep source = .ok r) includes f.includes

theorem PathFilter.hasRules_of_ofLists? {name : Text} {includes excludes : List Text} {f : PathFilter}
    (h : ofLists? name includes excludes = .ok f) : f.HasRules name includes excludes := by
  obtain ⟨self, dropping, keeping, hself, hdropping, hkeeping, hrules⟩ := ofLists?_eq_ok_iff.mp h
  obtain ⟨hincludes, hexcludes⟩ := includes_excludes_of_rules hself hdropping hkeeping hrules
  constructor
  · rw [hincludes, hexcludes, hrules]
  · exact ⟨self, dropping, hself, hexcludes, forall₂_of_rulesOf hdropping⟩
  · rw [hincludes]
    exact forall₂_of_rulesOf hkeeping

namespace Options

/-- However options are spelled, with what may be given once given at most once, the reading succeeds and holds their
values whole and in order. The settings that follow have a rule for each pattern behind the one for the tool itself, and
look for the keywords, or for the standard markers if there are none. -/
theorem ofArgs_spelled {settings : List Setting} {args : List Bytes} (h : SpellsAll settings args)
    (honce : ∀ o : OptionName, ¬ o.Repeatable → (settings.map Setting.name).count o ≤ 1) :
    ∃ o, ofArgs args = .ok o ∧ o.Holds settings ∧
      ∀ root name s, Settings.ofOptions o root name = .ok s →
        s.filter.HasRules name (valuesOf .includePattern settings) (valuesOf .excludePattern settings) ∧
        s.markers.markers =
          (if valuesOf .keyword settings = [] then MarkerSet.standard.markers else valuesOf .keyword settings) ∧
        s.format = o.format ∧ s.mode = o.mode ∧ s.root = root := by
  have hread := readFrom_spellsAll (r := {}) h rfl (by simpa using honce)
  have hholds := holds_foldl_apply honce
  refine ⟨_, hread, hholds, fun root name s hsettings => ?_⟩
  obtain ⟨hmarkers, hfilter, hroot, hmode, hformat⟩ := Settings.ofOptions_eq_ok_iff.mp hsettings
  rw [← hholds.includes, ← hholds.excludes, ← hholds.keywords]
  exact ⟨PathFilter.hasRules_of_ofLists? hfilter, Settings.markers_of_markersOf hmarkers, hformat, hmode, hroot⟩

/-- Values that look like something else, in several spellings, and the settings that they lead to. -/
theorem ofArgs_spelled_mixed :
    ∃ s, ofArgs (["-i", "a b,c", "--keyword==x", "--exclude=", "-fwarn", "-k", "y", "-v"].map
        fun arg : String => Utf8.encode arg.toList) =
        .ok ⟨["a b,c".toList], [[]], ["=x".toList, "y".toList], .warn, .auto, true⟩ ∧
      Settings.ofOptions ⟨["a b,c".toList], [[]], ["=x".toList, "y".toList], .warn, .auto, true⟩ [] ['m'] = .ok s ∧
      (∃ r, s.filter.includes = [r] ∧ Rule.ofText .keep "a b,c".toList = .ok r) ∧
      s.markers.markers = ["=x".toList, "y".toList] := by
  have hspells : SpellsAll [.includePattern "a b,c".toList, .keyword "=x".toList, .excludePattern [], .format .warn,
      .keyword "y".toList, .verbose] _ :=
    .cons (.apart _ (by decide) (by decide)) (.cons (.attached _ (by decide)) (.cons (.attached _ (by decide))
      (.cons (.glued _ (by decide) (by decide) (by decide)) (.cons (.apart _ (by decide) (by decide))
        (.cons .short .nil)))))
  obtain ⟨⟨includes, excludes, keywords, format, mode, verbose⟩, hread, hholds, hfollow⟩ :=
    ofArgs_spelled hspells (fun o => by cases o <;> decide)
  obtain rfl : includes = ["a b,c".toList] := hholds.includes
  obtain rfl : excludes = [[]] := hholds.excludes
  obtain rfl : keywords = ["=x".toList, "y".toList] := hholds.keywords
  obtain rfl : format = .warn := hholds.format .warn (by decide)
  obtain rfl : mode = .auto := hholds.usualMode fun m => by cases m <;> decide
  obtain rfl : verbose = true := hholds.verbose.mpr (by decide)
  obtain ⟨s, hsettings, -⟩ := exists_ok_of_map_toOption (g := fun _ : Settings => ()) (b := ())
    (x := Settings.ofOptions ⟨["a b,c".toList], [[]], ["=x".toList, "y".toList], .warn, .auto, true⟩ [] ['m']) rfl
  obtain ⟨hrules, hmarkers, -⟩ := hfollow [] ['m'] s hsettings
  refine ⟨s, hread, hsettings, ?_, hmarkers⟩
  obtain ⟨r, rest, hrule, hrest, hincludes⟩ := List.forall₂_cons_left_iff.mp hrules.keeping
  rw [List.forall₂_nil_left_iff.mp hrest] at hincludes
  exact ⟨r, hincludes, hrule⟩

end Options
end MarkerAudit
