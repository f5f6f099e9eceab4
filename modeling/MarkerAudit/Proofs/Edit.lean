import Mathlib.Data.List.Induction
import MarkerAudit.FileTree.Edit
import MarkerAudit.Proofs.Path

/-!
# What changes of a file system do

A change of a file system sets or removes what is at one location. Everything that is neither there nor below stays as
it is.
-/

namespace MarkerAudit

open Ascii

namespace Node

/-- The node without what is below it. -/
def bare : Node → Node
  | .directory _ => .directory []
  | n => n

/-- The second tree comes from the first by one change: at the location an entry of any kind, with nothing below it, is
new, or a file has other bytes. -/
structure ChangedAt (n n' : Node) (l : Location) : Prop where
  elsewhere : ∀ m, ¬ l <+: m → (n'.get? m).map bare = (n.get? m).map bare
  there : (n.get? l = none ∧ ∃ c, n'.get? l = some c ∧ c.entries = []) ∨
    ∃ content content', n.get? l = some (.file content) ∧ n'.get? l = some (.file content')

variable {n n' c : Node} {value : Option Node} {name name' : Name} {l m here : Location} {entries : List (Name × Node)}
  {content : Bytes}

theorem eq_file_of_bare (h : n.bare = .file content) : n = .file content := by
  cases n with
  | directory entries => cases h
  | _ => exact h

theorem map_bare_eq_file_iff {o : Option Node} : o.map bare = some (.file content) ↔ o = some (.file content) := by
  constructor
  · intro h
    obtain ⟨d, rfl, hd⟩ := Option.map_eq_some_iff.mp h
    rw [eq_file_of_bare hd]
  · rintro rfl
    rfl

theorem get?_eq_none_of_entries_eq_nil (h : n.entries = []) (hl : l ≠ []) : n.get? l = none := by
  cases l with
  | nil => exact absurd rfl hl
  | cons name l => rw [get?_cons, child?, h, List.find?_nil, Option.map_none, Option.bind_none]

/-- Below the changed entry there is nothing, before and after the change. -/
theorem ChangedAt.get?_below (h : n.ChangedAt n' l) (hm : m ≠ []) :
    n.get? (l ++ m) = none ∧ n'.get? (l ++ m) = none := by
  rw [get?_append, get?_append]
  rcases h.there with ⟨hnone, c, hc, hentries⟩ | ⟨content, content', hfile, hfile'⟩
  · rw [hnone, hc]
    exact ⟨rfl, get?_eq_none_of_entries_eq_nil hentries hm⟩
  · rw [hfile, hfile']
    exact ⟨get?_eq_none_of_entries_eq_nil rfl hm, get?_eq_none_of_entries_eq_nil rfl hm⟩

/-- A change leaves every file at another location as it is. -/
theorem ChangedAt.get?_eq_file_iff (h : n.ChangedAt n' l) (hm : m ≠ l) :
    n'.get? m = some (.file content) ↔ n.get? m = some (.file content) := by
  by_cases hbelow : l <+: m
  · obtain ⟨rest, rfl⟩ := hbelow
    have hrest : rest ≠ [] := by
      rintro rfl
      exact hm (List.append_nil l)
    obtain ⟨hnone, hnone'⟩ := h.get?_below hrest
    rw [hnone, hnone']
  · rw [← map_bare_eq_file_iff, h.elsewhere m hbelow, map_bare_eq_file_iff]

theorem exists_directory_of_map_bare {m' : Location} (h : (n'.get? m').map bare = (n.get? m).map bare)
    (hm : n.get? m = some (.directory entries)) : ∃ es, n'.get? m' = some (.directory es) := by
  rw [hm] at h
  obtain ⟨d, hd, hbare⟩ := Option.map_eq_some_iff.mp h
  cases d with
  | directory es => exact ⟨es, hd⟩
  | _ => cases hbare

theorem get?_append_singleton (h : n.get? here = some c) (name : Name) : n.get? (here ++ [name]) = c.child? name := by
  rw [get?_append, h, Option.bind_some, get?_cons]
  exact Option.bind_fun_some _

/-- What is on the way to a directory is a directory. -/
theorem exists_directory_of_append (h : n.get? (l ++ m) = some (.directory entries)) :
    ∃ es, n.get? l = some (.directory es) := by
  obtain ⟨d, hd, hm⟩ := Option.bind_eq_some_iff.mp (get?_append n l m ▸ h)
  cases m with
  | nil => exact ⟨entries, hd.trans hm⟩
  | cons name m =>
      rw [get?_cons, Option.bind_eq_some_iff] at hm
      obtain ⟨child, hchild, _⟩ := hm
      obtain ⟨es, rfl⟩ := exists_entries_of_child? hchild
      exact ⟨es, hd⟩

/-! ## Setting an entry -/

theorem child?_setEntry_of_ne (h : name' ≠ name) (value : Option Node) (entries : List (Name × Node)) :
    (directory (setEntry name value entries)).child? name' = (directory entries).child? name' := by
  have hvalue : (value.map fun v => (name, v)).toList.find? (fun e => e.1 = name') = none := by
    cases value with
    | none => rfl
    | some c => simp [Ne.symm h]
  simp only [child?, Node.entries]
  refine congrArg _ ?_
  induction entries with
  | nil => exact hvalue
  | cons e entries ih =>
      rw [setEntry]
      by_cases he : e.1 = name
      · have hne : ¬ e.1 = name' := fun h' => h (h'.symm.trans he)
        rw [if_pos he, List.find?_append, hvalue, Option.none_or, List.find?_cons_of_neg (by simpa using hne)]
      · rw [if_neg he, List.find?_cons, List.find?_cons, ih]

theorem child?_setEntry_self (entries : List (Name × Node)) :
    (directory (setEntry name (some c) entries)).child? name = some c := by
  simp only [child?, Node.entries]
  induction entries with
  | nil => simp [setEntry]
  | cons e entries ih =>
      rw [setEntry]
      by_cases he : e.1 = name
      · simp [he]
      · rw [if_neg he, List.find?_cons_of_neg (by simpa using he), ih]

/-- An entry that is taken out is gone, as no other has its name. -/
theorem child?_setEntry_none (h : (entries.map Prod.fst).Nodup) :
    (directory (setEntry name none entries)).child? name = none := by
  simp only [child?, Node.entries, Option.map_eq_none_iff, List.find?_eq_none]
  induction entries with
  | nil => exact List.forall_mem_nil _
  | cons e entries ih =>
      rw [List.map_cons, List.nodup_cons] at h
      rw [setEntry]
      by_cases he : e.1 = name
      · rw [if_pos he]
        intro d hd hname
        refine h.1 (he ▸ of_decide_eq_true hname ▸ List.mem_map_of_mem hd)
      · rw [if_neg he]
        exact List.forall_mem_cons.mpr ⟨by simpa using he, ih h.2⟩

theorem set_cons (hl : l ≠ []) (n : Node) (value : Option Node) (name : Name) :
    n.set value (name :: l) =
      .directory (setEntry name (some (((n.child? name).getD (.directory [])).set value l)) n.entries) := by
  cases l with
  | nil => exact absurd rfl hl
  | cons _ _ => rfl

/-- In a directory an entry is set or taken out where it says. -/
theorem get?_set_parent (h : n.get? here = some (.directory entries)) (value : Option Node) (name : Name) :
    (n.set value (here ++ [name])).get? here = some (.directory (setEntry name value entries)) := by
  induction here generalizing n with
  | nil =>
      cases h
      rfl
  | cons d here ih =>
      rw [get?_cons, Option.bind_eq_some_iff] at h
      obtain ⟨child, hchild, hget⟩ := h
      rw [List.cons_append, set_cons (by simp), get?_cons, child?_setEntry_self, hchild]
      exact ih hget

theorem get?_set_self (h : n.get? here = some (.directory entries)) :
    (n.set (some c) (here ++ [name])).get? (here ++ [name]) = some c := by
  rw [get?_append, get?_set_parent h, Option.bind_some, get?_cons, child?_setEntry_self]
  rfl

theorem get?_set_none (hn : n.WellFormed) (h : n.get? here = some (.directory entries)) :
    (n.set none (here ++ [name])).get? (here ++ [name]) = none := by
  rw [get?_append, get?_set_parent h, Option.bind_some, get?_cons, child?_setEntry_none (hn here entries h).1]
  rfl

/-- Setting an entry of a directory leaves everything as it is that is not at the entry or below it. -/
theorem map_bare_get?_set (h : n.get? here = some (.directory entries)) (hm : ¬ here ++ [name] <+: m) :
    ((n.set value (here ++ [name])).get? m).map bare = (n.get? m).map bare := by
  induction here generalizing n m with
  | nil =>
      cases h
      cases m with
      | nil => rfl
      | cons name' m =>
          have hne : name' ≠ name := by
            rintro rfl
            exact hm (List.cons_prefix_cons.mpr ⟨rfl, List.nil_prefix⟩)
          rw [List.nil_append, set, get?_cons, child?_setEntry_of_ne hne, get?_cons]
          rfl
  | cons d here ih =>
      rw [get?_cons, Option.bind_eq_some_iff] at h
      obtain ⟨child, hchild, hget⟩ := h
      obtain ⟨es, rfl⟩ := exists_entries_of_child? hchild
      rw [List.cons_append, set_cons (by simp)]
      cases m with
      | nil => rfl
      | cons name' m =>
          rw [get?_cons, get?_cons]
          by_cases hname : name' = d
          · have hbelow : ¬ here ++ [name] <+: m := by
              intro hpre
              exact hm (List.cons_prefix_cons.mpr ⟨hname.symm, hpre⟩)
            rw [hname, child?_setEntry_self, hchild]
            exact ih hget hbelow
          · rw [child?_setEntry_of_ne hname]
            rfl

/-- An entry that is added to a directory is one change, and so are other bytes in a file. -/
theorem changedAt_set (h : n.get? here = some (.directory entries))
    (hc : n.get? (here ++ [name]) = none ∧ c.entries = [] ∨
      ∃ content content', n.get? (here ++ [name]) = some (.file content) ∧ c = .file content') :
    n.ChangedAt (n.set (some c) (here ++ [name])) (here ++ [name]) := by
  refine ⟨fun m hm => map_bare_get?_set h hm, ?_⟩
  rw [get?_set_self h]
  rcases hc with ⟨hnone, hentries⟩ | ⟨content, content', hfile, rfl⟩
  · exact .inl ⟨hnone, c, rfl, hentries⟩
  · exact .inr ⟨content, content', hfile, rfl⟩

/-! ## Filling in -/

/-- Everything in the first tree is in the second, with the same bytes in files. -/
def Extends (n n' : Node) : Prop :=
  ∀ m c, n.get? m = some c → ∃ c', n'.get? m = some c' ∧ c'.bare = c.bare

theorem extends_refl (n : Node) : n.Extends n := fun _ c h => ⟨c, h, rfl⟩

theorem Extends.trans {n₁ n₂ n₃ : Node} (h : n₁.Extends n₂) (h' : n₂.Extends n₃) : n₁.Extends n₃ := by
  intro m c hc
  obtain ⟨c₂, hc₂, hbare⟩ := h m c hc
  obtain ⟨c₃, hc₃, hbare'⟩ := h' m c₂ hc₂
  exact ⟨c₃, hc₃, hbare'.trans hbare⟩

/-- An entry that is new, or that is set to more than was there, takes nothing away. -/
theorem extends_setEntry (h : ∀ old, (directory entries).child? name = some old → old.Extends c) :
    (directory entries).Extends (directory (setEntry name (some c) entries)) := by
  intro m d hd
  cases m with
  | nil =>
      cases hd
      exact ⟨_, rfl, rfl⟩
  | cons name' m =>
      rw [get?_cons] at hd ⊢
      by_cases hname : name' = name
      · subst hname
        obtain ⟨old, hold, hd⟩ := Option.bind_eq_some_iff.mp hd
        rw [child?_setEntry_self]
        exact h old hold m d hd
      · rw [child?_setEntry_of_ne hname]
        exact ⟨d, hd, rfl⟩

theorem extends_set (h : n.get? here = some (.directory entries))
    (hold : ∀ old, n.get? (here ++ [name]) = some old → old.Extends c) :
    n.Extends (n.set (some c) (here ++ [name])) := by
  intro m d hd
  by_cases hm : here ++ [name] <+: m
  · obtain ⟨m, rfl⟩ := hm
    rw [get?_append] at hd
    obtain ⟨old, hget, hd⟩ := Option.bind_eq_some_iff.mp hd
    rw [get?_append, get?_set_self h, Option.bind_some]
    exact hold old hget m d hd
  · have hbare := @map_bare_get?_set _ (some c) _ _ _ _ h hm
    rw [hd] at hbare
    exact Option.map_eq_some_iff.mp hbare

mutual
/-- What is there before a tree is filled in stays. -/
theorem extends_fill : (tree n : Node) → n.Extends (n.fill tree)
  | .directory wanted, .directory entries => extends_fillAll wanted entries
  | .directory _, .file content => extends_refl (.file content)
  | .directory _, .symlink target => extends_refl (.symlink target)
  | .directory _, .special kind => extends_refl (.special kind)
  | .file _, n => extends_refl n
  | .symlink _, n => extends_refl n
  | .special _, n => extends_refl n

theorem extends_fillAll : (wanted entries : List (Name × Node)) →
    (directory entries).Extends (directory (fill.fillAll entries wanted))
  | [], entries => extends_refl (directory entries)
  | (name, tree) :: rest, entries => by
      rw [fill.fillAll]
      refine (extends_setEntry fun old hold => ?_).trans (extends_fillAll rest _)
      rw [hold]
      exact extends_fill tree old
end

theorem child?_of_not_mem (h : name ∉ entries.map Prod.fst) : (directory entries).child? name = none := by
  rw [child?, Option.map_eq_none_iff, List.find?_eq_none]
  intro e he hname
  exact h (of_decide_eq_true hname ▸ List.mem_map_of_mem he)

theorem setEntry_of_not_mem (h : name ∉ entries.map Prod.fst) (c : Node) :
    setEntry name (some c) entries = entries ++ [(name, c)] := by
  induction entries with
  | nil => rfl
  | cons e entries ih =>
      rw [List.map_cons, List.mem_cons, not_or] at h
      rw [setEntry, if_neg (Ne.symm h.1), ih h.2, List.cons_append]

/-- Entries of other names are added as they are. -/
theorem fillAll_of_nodup {wanted : List (Name × Node)} (h : ((entries ++ wanted).map Prod.fst).Nodup) :
    fill.fillAll entries wanted = entries ++ wanted := by
  induction wanted generalizing entries with
  | nil => rw [fill.fillAll, List.append_nil]
  | cons e wanted ih =>
      have hnew : e.1 ∉ entries.map Prod.fst := by
        rw [List.map_append, List.map_cons, List.nodup_append] at h
        exact fun hm => h.2.2 _ hm _ List.mem_cons_self rfl
      rw [List.append_cons] at h
      rw [fill.fillAll, child?_of_not_mem hnew]
      simp only [setEntry_of_not_mem hnew]
      rw [ih h, ← List.append_cons]

/-- A directory that is empty is filled with the tree itself. -/
theorem fill_nil {wanted : List (Name × Node)} (h : (wanted.map Prod.fst).Nodup) :
    (directory []).fill (directory wanted) = directory wanted := by
  rw [fill, fillAll_of_nodup (by simpa using h), List.nil_append]

end Node

/-! ## Locations as paths -/

variable {l : Location} {name : Name}

theorem forall_isName_append (hl : ∀ name ∈ l, IsName name) (hname : IsName name) :
    ∀ name' ∈ l ++ [name], IsName name' :=
  List.forall_mem_append.mpr ⟨hl, List.forall_mem_singleton.mpr hname⟩

theorem segments_flatMap_slash (hl : ∀ name ∈ l, IsName name) : segments slash (l.flatMap (slash :: ·)) = [] :: l := by
  induction l using List.reverseRecOn with
  | nil => rfl
  | append_singleton l name ih =>
      obtain ⟨hl, hname⟩ := List.forall_mem_append.mp hl
      rw [List.flatMap_append, List.flatMap_singleton, segments_append_sep, ih hl,
        segments_of_not_mem (hname name List.mem_cons_self).no_slash, List.cons_append]

theorem filter_names (hl : ∀ name ∈ l, IsName name) : ([] :: l).filter (· ≠ []) = l := by
  rw [List.filter_cons_of_neg (by simp), List.filter_eq_self]
  intro name hm
  simpa using (hl name hm).ne_nil

/-- A path that ends with a slash names the directories on the way, and asks for a directory. -/
theorem Path.components_slash (hl : ∀ name ∈ l, IsName name) :
    components (l.flatMap (slash :: ·) ++ [slash]) = l ++ [dot] := by
  rw [components, segments_append_sep, segments_flatMap_slash hl, List.filter_append, filter_names hl,
    if_pos List.getLast?_concat]
  exact congrArg (· ++ [dot]) (List.append_nil l)

namespace FileSystem

theorem absolutePath_append (l : Location) (name : Name) :
    absolutePath (l ++ [name]) = l.flatMap (slash :: ·) ++ slash :: name := by
  rw [absolutePath, if_neg (by simp), List.flatMap_append, List.flatMap_singleton]

theorem getLast?_absolutePath (hname : IsName name) : (absolutePath (l ++ [name])).getLast? ≠ some slash := by
  intro h
  rw [absolutePath_append, List.getLast?_append_of_ne_nil _ (List.cons_ne_nil _ _),
    List.getLast?_cons_of_ne_nil hname.ne_nil] at h
  exact hname.no_slash (List.mem_of_getLast? h)

theorem components_absolutePath (hl : ∀ name ∈ l, IsName name) (hname : IsName name) :
    Path.components (absolutePath (l ++ [name])) = l ++ [name] := by
  have hsegs : segments slash (absolutePath (l ++ [name])) = [] :: (l ++ [name]) := by
    rw [absolutePath, if_neg (by simp), segments_flatMap_slash (forall_isName_append hl hname)]
  rw [Path.components, hsegs, filter_names (forall_isName_append hl hname), if_neg (getLast?_absolutePath hname),
    List.append_nil]

theorem zero_not_mem_flatMap_slash (hl : ∀ name ∈ l, IsName name) : 0 ∉ l.flatMap (slash :: ·) := by
  intro h0
  obtain ⟨name, hm, h0⟩ := List.mem_flatMap.mp h0
  rcases List.mem_cons.mp h0 with h0 | h0
  · cases h0
  · exact (hl name hm).no_zero h0

theorem zero_not_mem_absolutePath (hl : ∀ name ∈ l, IsName name) (hname : IsName name) :
    0 ∉ absolutePath (l ++ [name]) := by
  rw [absolutePath, if_neg (by simp)]
  exact zero_not_mem_flatMap_slash (forall_isName_append hl hname)

theorem isAbsolute_flatMap_slash (l : Location) (behind : Bytes) :
    Path.isAbsolute (l.flatMap (slash :: ·) ++ slash :: behind) = true := by
  cases l <;> simp [Path.isAbsolute]

theorem isAbsolute_absolutePath (l : Location) (name : Name) :
    Path.isAbsolute (absolutePath (l ++ [name])) = true := by
  rw [absolutePath_append]
  exact isAbsolute_flatMap_slash l name

/-- The path of a name seen from a location is that of the location with the name. -/
theorem join_absolutePath (hl : ∀ name ∈ l, IsName name) (hname : IsName name) :
    Path.join (absolutePath l) name = absolutePath (l ++ [name]) := by
  have hrelative : Path.isAbsolute name = false := by
    refine decide_eq_false fun h => hname.no_slash ?_
    exact List.mem_of_mem_head? (Option.mem_def.mpr h)
  rw [absolutePath_append, Path.join, hrelative]
  cases l using List.reverseRecOn with
  | nil => rfl
  | append_singleton l above =>
      rw [if_neg (getLast?_absolutePath (hl above (List.mem_append_right _ List.mem_cons_self)))]
      simp [absolutePath]

variable {fs : FileSystem} {c : Node} {entries : List (Name × Node)} {here l' : Location} {name' : Name}
  {followLast : Bool}

theorem walkLinks_names (hl : ∀ name ∈ l, IsName name) (h : fs.root.get? (here ++ l) = some c)
    (hc : ∀ target, c ≠ .symlink target) (links : Nat) :
    walkLinks fs.root followLast links l here = .ok (here ++ l) := by
  cases links with
  | zero => exact walk_of_get? hl h hc
  | succ links => exact walk_of_get? hl h hc

/-- Going through the names of directories leads to the last of them. -/
theorem walk_append {follow : Location → Bytes → List Name → Except PathError Location} (hl : ∀ name ∈ l, IsName name)
    (h : fs.root.get? (here ++ l) = some (.directory entries)) (rest : List Name) :
    walk fs.root followLast follow (l ++ rest) here = walk fs.root followLast follow rest (here ++ l) := by
  induction l generalizing here with
  | nil => rw [List.nil_append, List.append_nil]
  | cons name l ih =>
      obtain ⟨hname, hl⟩ := List.forall_mem_cons.mp hl
      rw [List.append_cons] at h ⊢
      obtain ⟨next, hnext⟩ := Node.exists_directory_of_append h
      obtain ⟨es, hhere⟩ := Node.exists_directory_of_append hnext
      have hchild := (Node.get?_append_singleton hhere name).symm.trans hnext
      rw [List.cons_append, walk, hhere]
      simp only [hname.ne_dot, hname.ne_dotDot, Nat.not_lt.mpr hname.length_le, if_false, hchild]
      exact ih hl h

/-- A name that is not in a directory leads nowhere. -/
theorem walkLinks_missing (hl : ∀ name ∈ l, IsName name) (hname : IsName name)
    (hdirectory : fs.root.get? (here ++ l) = some (.directory entries))
    (hmissing : fs.root.get? (here ++ l ++ [name]) = none) (links : Nat) :
    walkLinks fs.root followLast links (l ++ [name]) here = .error .notFound := by
  have hchild := (Node.get?_append_singleton hdirectory name).symm.trans hmissing
  have hwalk : ∀ follow, walk fs.root followLast follow (l ++ [name]) here = .error .notFound := by
    intro follow
    rw [walk_append hl hdirectory, walk, hdirectory]
    simp only [hname.ne_dot, hname.ne_dotDot, Nat.not_lt.mpr hname.length_le, if_false, hchild]
  cases links with
  | zero => exact hwalk _
  | succ links => exact hwalk _

/-- A path of names is gone through from the root. -/
theorem locate_absolutePath_eq (hl : ∀ name ∈ l, IsName name) (hname : IsName name)
    (hlength : (absolutePath (l ++ [name])).length ≤ Path.maxPath) :
    fs.locate followLast (absolutePath (l ++ [name])) =
      walkLinks fs.root followLast Path.maxLinks (l ++ [name]) [] := by
  have hempty : (absolutePath (l ++ [name])).isEmpty = false := by simp [absolutePath_append]
  rw [locate, if_neg (by simpa using zero_not_mem_absolutePath hl hname), hempty, if_neg Bool.false_ne_true,
    if_neg (Nat.not_lt.mpr hlength), isAbsolute_absolutePath, if_pos rfl, components_absolutePath hl hname]

/-- The absolute path of a location leads to it if no symlink is there. -/
theorem locate_absolutePath (hl : ∀ name ∈ l, IsName name) (hname : IsName name)
    (hget : fs.root.get? (l ++ [name]) = some c) (hc : ∀ target, c ≠ .symlink target)
    (hlength : (absolutePath (l ++ [name])).length ≤ Path.maxPath) :
    fs.locate true (absolutePath (l ++ [name])) = .ok (l ++ [name]) := by
  rw [locate_absolutePath_eq hl hname hlength]
  exact walkLinks_names (forall_isName_append hl hname) hget hc _

/-! ## Changes at a location -/

/-- Directories that are there are not made again. -/
theorem makeFrom_append (hl : ∀ name ∈ l, IsName name) (h : fs.root.get? (here ++ l) = some (.directory entries))
    (rest : List Name) : fs.makeFrom here (l ++ rest) = fs.makeFrom (here ++ l) rest := by
  induction l generalizing here with
  | nil => rw [List.nil_append, List.append_nil]
  | cons name l ih =>
      obtain ⟨hname, hl⟩ := List.forall_mem_cons.mp hl
      rw [List.append_cons here name l] at h ⊢
      obtain ⟨next, hnext⟩ := Node.exists_directory_of_append h
      rw [List.cons_append, makeFrom,
        walkLinks_names (List.forall_mem_singleton.mpr hname) hnext (fun _ h => Node.noConfusion h)]
      exact ih hl h

theorem makeFrom_dot (h : fs.root.get? here = some (.directory entries)) :
    fs.makeFrom here [Path.dot] = .ok (fs, here) := by
  have hdot : walkLinks fs.root true Path.maxLinks [Path.dot] here = .ok here := by
    rw [Path.maxLinks, walkLinks, walk, h]
    rfl
  rw [makeFrom, hdot]
  simp only [makeFrom, h]

theorem splitLast_absolutePath (hl : ∀ name ∈ l, IsName name) (hname : IsName name) :
    splitLast (absolutePath (l ++ [name])) = some (l.flatMap (slash :: ·) ++ [slash], name) := by
  have hlead : [slash] ++ l.flatMap (· ++ [slash]) = l.flatMap (slash :: ·) ++ [slash] := by
    induction l with
    | nil => rfl
    | cons name' l ih =>
        rw [List.flatMap_cons, List.flatMap_cons, List.append_assoc name', ih (List.forall_mem_cons.mp hl).2]
        simp
  rw [splitLast, components_absolutePath hl hname, List.getLast?_concat]
  simp only [isAbsolute_absolutePath, if_true, List.dropLast_concat, hlead]

/-- A name stands for an entry of a directory that is there, or may stand for one, and the path is not too long to be
read by. -/
structure HasPlace (fs : FileSystem) (l : Location) (name : Name) : Prop where
  names : ∀ name ∈ l, IsName name
  isName : IsName name
  directory : ∃ entries, fs.root.get? l = some (.directory entries)
  room : (absolutePath (l ++ [name])).length ≤ Path.maxPath

/-- A place is gone through from the root up to its last name. -/
theorem HasPlace.makeDirectory_eq (h : fs.HasPlace l name) :
    fs.makeDirectory (absolutePath (l ++ [name])) = fs.makeFrom l [name] := by
  obtain ⟨entries, hdirectory⟩ := h.directory
  rw [makeDirectory, if_neg (by simpa using zero_not_mem_absolutePath h.names h.isName), isAbsolute_absolutePath,
    if_pos rfl, components_absolutePath h.names h.isName, makeFrom_append h.names hdirectory, List.nil_append]

theorem HasPlace.makeDirectory_of_directory (h : fs.HasPlace l name)
    (hget : fs.root.get? (l ++ [name]) = some (.directory entries)) :
    fs.makeDirectory (absolutePath (l ++ [name])) = .ok (fs, l ++ [name]) := by
  rw [h.makeDirectory_eq, makeFrom,
    walkLinks_names (List.forall_mem_singleton.mpr h.isName) hget (fun _ h => Node.noConfusion h)]
  simp only [makeFrom, hget]

theorem HasPlace.makeDirectory_of_missing (h : fs.HasPlace l name) (hnone : fs.root.get? (l ++ [name]) = none) :
    fs.makeDirectory (absolutePath (l ++ [name])) =
      .ok (fs.set (l ++ [name]) (some (.directory [])), l ++ [name]) := by
  obtain ⟨entries, hdirectory⟩ := h.directory
  have hself : (fs.set (l ++ [name]) (some (.directory []))).root.get? (l ++ [name]) = some (.directory []) :=
    Node.get?_set_self hdirectory
  have hwalk : walkLinks fs.root true Path.maxLinks [name] l = .error .notFound := by
    rw [← List.append_nil l] at hdirectory hnone
    exact walkLinks_missing (List.forall_mem_nil _) h.isName hdirectory hnone _
  rw [h.makeDirectory_eq, makeFrom, hwalk]
  simp only [makeFrom, hself]

/-- An entry is put in its place. -/
theorem HasPlace.put_eq_set (h : fs.HasPlace l name) (n : Node) :
    fs.put (absolutePath (l ++ [name])) n = .ok (fs.set (l ++ [name]) (some n)) := by
  obtain ⟨entries, hdirectory⟩ := h.directory
  have hzero : 0 ∉ l.flatMap (slash :: ·) ++ [slash] := by
    rw [List.mem_append, not_or]
    exact ⟨zero_not_mem_flatMap_slash h.names, by decide⟩
  have hmake : fs.makeDirectory (l.flatMap (slash :: ·) ++ [slash]) = .ok (fs, l) := by
    rw [makeDirectory, if_neg (by simpa using hzero), isAbsolute_flatMap_slash l [], if_pos rfl,
      Path.components_slash h.names, makeFrom_append h.names hdirectory]
    exact makeFrom_dot hdirectory
  rw [put, splitLast_absolutePath h.names h.isName]
  simp only [hmake]

theorem HasPlace.locate_of_missing (h : fs.HasPlace l name) (hnone : fs.root.get? (l ++ [name]) = none) :
    fs.locate followLast (absolutePath (l ++ [name])) = .error .notFound := by
  obtain ⟨entries, hdirectory⟩ := h.directory
  rw [locate_absolutePath_eq h.names h.isName h.room, walkLinks_missing h.names h.isName hdirectory hnone]

/-- A file is written where one is, or where nothing is. -/
theorem HasPlace.writeFile_eq_set (h : fs.HasPlace l name)
    (hplace : fs.root.get? (l ++ [name]) = none ∨ ∃ old, fs.root.get? (l ++ [name]) = some (.file old))
    (content : Bytes) :
    fs.writeFile (absolutePath (l ++ [name])) content = .ok (fs.set (l ++ [name]) (some (.file content))) := by
  rw [writeFile]
  rcases hplace with hnone | ⟨old, hold⟩
  · rw [h.locate_of_missing hnone]
    exact h.put_eq_set _
  · rw [locate_absolutePath h.names h.isName hold (fun _ h => Node.noConfusion h) h.room]
    simp only [hold]

theorem HasPlace.node_of_missing (h : fs.HasPlace l name) (hnone : fs.root.get? (l ++ [name]) = none) :
    fs.node (absolutePath (l ++ [name])) = .error .notFound := by
  rw [node, h.locate_of_missing hnone]

theorem HasPlace.node_of_get? (h : fs.HasPlace l name) (hget : fs.root.get? (l ++ [name]) = some c)
    (hc : ∀ target, c ≠ .symlink target) : fs.node (absolutePath (l ++ [name])) = .ok c := by
  rw [node, locate_absolutePath h.names h.isName hget hc h.room]
  simp only [hget]

/-- The path of a place leads to what is there, a symlink itself if it is not followed. -/
theorem HasPlace.locate_false (h : fs.HasPlace l name) (hget : fs.root.get? (l ++ [name]) = some c) :
    fs.locate false (absolutePath (l ++ [name])) = .ok (l ++ [name]) := by
  obtain ⟨entries, hdirectory⟩ := h.directory
  have hchild := (Node.get?_append_singleton hdirectory name).symm.trans hget
  have hwalk : ∀ follow, walk fs.root false follow (l ++ [name]) [] = .ok (l ++ [name]) := by
    intro follow
    rw [walk_append h.names hdirectory, walk, List.nil_append, hdirectory]
    simp only [h.isName.ne_dot, h.isName.ne_dotDot, Nat.not_lt.mpr h.isName.length_le, if_false, hchild]
    cases c with
    | symlink target => rfl
    | _ => rfl
  rw [locate_absolutePath_eq h.names h.isName h.room, Path.maxLinks, walkLinks, hwalk]

/-- A place stays one whatever is set in another that is not on the way to it. -/
theorem HasPlace.set (h : fs.HasPlace l name) (h' : fs.HasPlace l' name') (hother : ¬ l' ++ [name'] <+: l)
    (value : Option Node) : (fs.set (l' ++ [name']) value).HasPlace l name := by
  obtain ⟨_, hdirectory⟩ := h.directory
  obtain ⟨_, hdirectory'⟩ := h'.directory
  exact ⟨h.names, h.isName, Node.exists_directory_of_map_bare (Node.map_bare_get?_set hdirectory' hother) hdirectory,
    h.room⟩

/-- A name in a directory that stands at a place is a place if there is room for its path. -/
theorem HasPlace.append (h : fs.HasPlace l name) (hget : fs.root.get? (l ++ [name]) = some (.directory entries))
    (hname : IsName name') (hroom : (absolutePath (l ++ [name] ++ [name'])).length ≤ Path.maxPath) :
    fs.HasPlace (l ++ [name]) name' :=
  ⟨forall_isName_append h.names h.isName, hname, ⟨entries, hget⟩, hroom⟩

/-! ## What is read afterwards -/

/-- A file that is written is read by its path, and the tree has one change. -/
theorem HasPlace.exists_writeFile (h : fs.HasPlace l name)
    (hplace : fs.root.get? (l ++ [name]) = none ∨ ∃ old, fs.root.get? (l ++ [name]) = some (.file old))
    (content : Bytes) :
    ∃ fs', fs.writeFile (absolutePath (l ++ [name])) content = .ok fs' ∧
      fs'.node (absolutePath (l ++ [name])) = .ok (.file content) ∧ fs.root.ChangedAt fs'.root (l ++ [name]) := by
  obtain ⟨entries, hdirectory⟩ := h.directory
  have hself : (fs.set (l ++ [name]) (some (.file content))).root.get? (l ++ [name]) = some (.file content) :=
    Node.get?_set_self hdirectory
  have hstays : (fs.set (l ++ [name]) (some (.file content))).HasPlace l name :=
    ⟨h.names, h.isName, ⟨_, Node.get?_set_parent hdirectory _ _⟩, h.room⟩
  refine ⟨_, h.writeFile_eq_set hplace content, hstays.node_of_get? hself (fun _ h => Node.noConfusion h),
    Node.changedAt_set hdirectory ?_⟩
  rcases hplace with hnone | ⟨old, hold⟩
  · exact .inl ⟨hnone, rfl⟩
  · exact .inr ⟨old, content, hold, rfl⟩

/-- What is removed is gone with all that is below it, and everything else stays. -/
theorem HasPlace.exists_remove (h : fs.HasPlace l name) (hwell : fs.root.WellFormed)
    (hget : fs.root.get? (l ++ [name]) = some c) :
    ∃ fs', fs.remove (absolutePath (l ++ [name])) = .ok fs' ∧ fs'.root.get? (l ++ [name]) = none ∧
      ∀ m, ¬ l ++ [name] <+: m → (fs'.root.get? m).map Node.bare = (fs.root.get? m).map Node.bare := by
  obtain ⟨entries, hdirectory⟩ := h.directory
  exact ⟨fs.set (l ++ [name]) none, by rw [remove, h.locate_false hget], Node.get?_set_none hwell hdirectory,
    fun m hm => Node.map_bare_get?_set hdirectory hm⟩

/-- What is moved is in its new place with all that is below it, the old place is empty, and everything else stays. -/
theorem HasPlace.exists_rename (h : fs.HasPlace l name) (h' : fs.HasPlace l' name') (hwell : fs.root.WellFormed)
    (hget : fs.root.get? (l ++ [name]) = some c) (hinto : ¬ l ++ [name] <+: l')
    (hover : ¬ l' ++ [name'] <+: l ++ [name]) :
    ∃ fs', fs.rename (absolutePath (l ++ [name])) (absolutePath (l' ++ [name'])) = .ok fs' ∧
      fs'.root.get? (l' ++ [name']) = some c ∧ fs'.root.get? (l ++ [name]) = none ∧
      ∀ m, ¬ l ++ [name] <+: m → ¬ l' ++ [name'] <+: m →
        (fs'.root.get? m).map Node.bare = (fs.root.get? m).map Node.bare := by
  obtain ⟨entries, hdirectory⟩ := h.directory
  have hplace := h'.set h hinto none
  obtain ⟨entries', hdirectory'⟩ := hplace.directory
  refine ⟨(fs.set (l ++ [name]) none).set (l' ++ [name']) (some c), ?_, Node.get?_set_self hdirectory', ?_,
    fun m hm hm' => ?_⟩
  · rw [rename, h.locate_false hget]
    simp only [hget]
    exact hplace.put_eq_set c
  · refine Option.map_eq_none_iff.mp ((Node.map_bare_get?_set hdirectory' hover).trans ?_)
    exact congrArg (Option.map Node.bare) (Node.get?_set_none hwell hdirectory)
  · exact (Node.map_bare_get?_set hdirectory' hm').trans (Node.map_bare_get?_set hdirectory hm)

end FileSystem
end MarkerAudit
