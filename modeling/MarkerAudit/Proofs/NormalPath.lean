import Mathlib.Data.List.Infix
import MarkerAudit.Proofs.Path

/-!
# Normal paths

Repositories keep paths without components that mean a directory itself or the one above. Where no symlink is on such a
path, it leads to a file only if that is at the location that the components of the path name.
-/

namespace MarkerAudit

open Ascii

variable {l : Location}

namespace Path

/-- No component of the path is `.` or `..`, and none but the last is empty, so that there may be a slash at the end
only. -/
def IsNormal (path : Bytes) : Prop :=
  (∀ name ∈ segments slash path, name ≠ dot ∧ name ≠ dotDot) ∧ ∀ name ∈ (segments slash path).dropLast, name ≠ []

instance (path : Bytes) : Decidable (IsNormal path) := inferInstanceAs (Decidable (_ ∧ _))

theorem segments_ne_nil (path : Bytes) : segments slash path ≠ [] := by
  rw [segments_eq_splitOn]
  exact List.splitOn_ne_nil slash path

/-- What is behind the directory that a normal path starts with is a normal path. -/
theorem IsNormal.of_append {before behind : Bytes} (h : IsNormal (before ++ slash :: behind)) : IsNormal behind := by
  rw [IsNormal, segments_append_sep, List.dropLast_append_of_ne_nil (segments_ne_nil behind)] at h
  exact ⟨fun name hname => h.1 name (List.mem_append_right _ hname),
    fun name hname => h.2 name (List.mem_append_right _ hname)⟩

theorem IsNormal.not_isAbsolute {path : Bytes} (h : IsNormal path) : isAbsolute path = false := by
  cases path with
  | nil => rfl
  | cons b path =>
      have hb : b ≠ slash := by
        rintro rfl
        have hsegs := @segments_append_sep _ _ slash [] path
        rw [IsNormal, ← List.nil_append (slash :: path), hsegs,
          List.dropLast_append_of_ne_nil (segments_ne_nil path)] at h
        exact h.2 [] (List.mem_append_left _ List.mem_cons_self) rfl
      simpa [isAbsolute] using hb

/-- The last component of a path is what stands behind its last slash. A slash at the end leaves it empty, and then the
path asks for a directory. -/
theorem components_of_mem_slash {path : Bytes} (h : slash ∈ path) :
    ∃ names last, segments slash path = names ++ [last] ∧
      components path = (names ++ [if last = [] then dot else last]).filter (· ≠ []) := by
  obtain ⟨before, last, hpath, hlast, hsegs⟩ := exists_last_segment h
  refine ⟨_, _, hsegs, ?_⟩
  have hend : path.getLast? = (slash :: last).getLast? := by
    rw [hpath, List.getLast?_append_of_ne_nil _ (List.cons_ne_nil _ _)]
  rw [components, hsegs, hend, List.filter_append, List.filter_append, List.append_assoc]
  congr 1
  rcases List.eq_nil_or_concat last with rfl | ⟨init, b, rfl⟩
  · rfl
  · have hb : some b ≠ some slash := by
      rintro ⟨rfl⟩
      exact hlast (by simp)
    rw [List.concat_eq_append, ← List.cons_append, List.getLast?_concat, if_neg hb, List.append_nil, if_neg (by simp)]

/-- The components of a normal path seen from the current directory are its own. One that ends with a slash asks for a
directory. -/
theorem components_join_period {path : Bytes} (h : IsNormal path) :
    ∃ names last, segments slash path = names ++ [last] ∧
      components (join [period] path) = dot :: names ++ [if last = [] then dot else last] := by
  have hjoin : join [period] path = [period] ++ slash :: path := by
    rw [join, h.not_isAbsolute]
    rfl
  have hsegs : segments slash ([period] ++ slash :: path) = dot :: segments slash path := segments_append_sep _ _
  obtain ⟨names, last, hpath⟩ := (List.eq_nil_or_concat' (segments slash path)).resolve_left (segments_ne_nil path)
  obtain ⟨names', last', hjoined, hcomponents⟩ := @components_of_mem_slash ([period] ++ slash :: path) (by simp)
  rw [hsegs, hpath, ← List.cons_append] at hjoined
  obtain ⟨hnames, hlast⟩ := List.append_inj' hjoined rfl
  obtain rfl := List.singleton_inj.mp hlast
  refine ⟨names, last, hpath, ?_⟩
  rw [hjoin, hcomponents, ← hnames, List.filter_eq_self]
  have hne := h.2
  rw [hpath, List.dropLast_concat] at hne
  intro name hname
  rcases List.mem_append.mp hname with hname | hname
  · rcases List.mem_cons.mp hname with rfl | hname
    · rfl
    · simpa using hne name hname
  · rw [List.mem_singleton.mp hname]
    split
    · rfl
    · rename_i hlast0
      simpa using hlast0

end Path

/-! ## Symlinks -/

namespace Node

/-- Whether no symlink is on the way to a location or at its end. -/
def avoidsLinks (n : Node) (l : Location) : Bool :=
  l.inits.all fun m => match n.get? m with
    | some (.symlink _) => false
    | _ => true

theorem avoidsLinks_iff {n : Node} :
    n.avoidsLinks l = true ↔ ∀ m, m <+: l → ∀ target, n.get? m ≠ some (.symlink target) := by
  rw [avoidsLinks, List.all_eq_true]
  simp only [List.mem_inits]
  refine forall₂_congr fun m _ => ?_
  cases n.get? m with
  | none => simp
  | some c => cases c <;> simp

end Node

namespace FileSystem

/-- Where no symlink is on the way, going through names comes to where they say, or fails. -/
theorem walk_append_of_no_link {root : Node} {followLast : Bool} {here r : Location} {rest : List Name}
    {follow : Location → Bytes → List Name → Except PathError Location}
    (hl : ∀ name ∈ l, name ≠ Path.dot ∧ name ≠ Path.dotDot)
    (hlink : ∀ m, m <+: l → ∀ target, root.get? (here ++ m) ≠ some (.symlink target))
    (h : walk root followLast follow (l ++ rest) here = .ok r) :
    walk root followLast follow rest (here ++ l) = .ok r := by
  induction l generalizing here with
  | nil => rwa [List.append_nil]
  | cons name l ih =>
      obtain ⟨⟨hdot, hdotDot⟩, hl⟩ := List.forall_mem_cons.mp hl
      have hnext : here ++ name :: l = here ++ [name] ++ l := by simp
      rw [List.cons_append, walk] at h
      split at h
      · rename_i entries hhere
        rw [if_neg hdot, if_neg hdotDot] at h
        split at h
        · cases h
        · have hstep : walk root followLast follow (l ++ rest) (here ++ [name]) = .ok r →
              walk root followLast follow rest (here ++ name :: l) = .ok r := by
            intro hwalk
            rw [hnext]
            refine ih hl ?_ hwalk
            intro m hm target
            rw [List.append_assoc]
            exact hlink (name :: m) (List.cons_prefix_cons.mpr ⟨rfl, hm⟩) target
          split at h
          · cases h
          · rename_i target hchild
            refine absurd ?_ (hlink [name] (List.cons_prefix_cons.mpr ⟨rfl, List.nil_prefix⟩) target)
            rw [Node.get?_append, hhere]
            exact (Node.get?_cons).trans (by rw [hchild]; rfl)
          · exact hstep h
      · cases h

/-! ## What a path leads to -/

variable {fs : FileSystem} {entries : List (Name × Node)}

/-- What a path leads to is what going through its components comes to. -/
theorem exists_walk_of_node {path : Bytes} {c : Node} (h : fs.node path = .ok c) :
    ∃ follow r, walk fs.root true follow (Path.components path) (if Path.isAbsolute path then [] else fs.current) =
        .ok r ∧ fs.root.get? r = some c := by
  rw [node] at h
  cases hlocate : fs.locate true path with
  | error e =>
      rw [hlocate] at h
      cases h
  | ok r =>
      simp only [hlocate] at h
      have hget : fs.root.get? r = some c := by
        split at h
        · rename_i n hn
          rw [hn, Except.ok.inj h]
        · cases h
      rw [locate] at hlocate
      split at hlocate
      · cases hlocate
      · split at hlocate
        · cases hlocate
        · split at hlocate
          · cases hlocate
          · exact ⟨_, r, hlocate, hget⟩

/-- A normal path without a symlink on it leads to a file only if that is at the location of its components. -/
theorem get?_of_node_join_period {path content : Bytes}
    (hcurrent : fs.root.get? fs.current = some (.directory entries)) (hnormal : Path.IsNormal path)
    (hlink : (Node.directory entries).avoidsLinks (segments slash path) = true)
    (h : fs.node (Path.join [period] path) = .ok (.file content)) :
    (Node.directory entries).get? (segments slash path) = some (.file content) := by
  have hbelow : ∀ m, fs.root.get? (fs.current ++ m) = (Node.directory entries).get? m := by
    intro m
    rw [Node.get?_append, hcurrent]
    rfl
  have habs : Path.isAbsolute (Path.join [period] path) = false := by
    rw [Path.join, hnormal.not_isAbsolute]
    rfl
  obtain ⟨names, last, hpath, hcomponents⟩ := Path.components_join_period hnormal
  obtain ⟨follow, r, hwalk, hget⟩ := exists_walk_of_node h
  rw [hcomponents, habs, if_neg Bool.false_ne_true, List.cons_append, walk, hcurrent] at hwalk
  have hwalk : walk fs.root true follow (names ++ [if last = [] then Path.dot else last]) fs.current = .ok r := hwalk
  have hdots := hnormal.1
  have hlinks : ∀ m, m <+: segments slash path → ∀ target, fs.root.get? (fs.current ++ m) ≠ some (.symlink target) := by
    intro m hm target
    rw [hbelow]
    exact Node.avoidsLinks_iff.mp hlink m hm target
  rw [hpath] at hdots hlinks ⊢
  by_cases hlast : last = []
  · -- behind a slash at the end there is a directory, not a file
    rw [if_pos hlast] at hwalk
    have hdirectory := walk_append_of_no_link (fun name hname => hdots name (List.mem_append_left _ hname))
      (fun m hm => hlinks m (hm.trans (List.prefix_append _ _))) hwalk
    rw [walk] at hdirectory
    split at hdirectory
    · rename_i es hes
      rw [if_pos rfl, walk] at hdirectory
      rw [← Except.ok.inj hdirectory, hes] at hget
      cases hget
    · cases hdirectory
  · rw [if_neg hlast, ← List.append_nil (names ++ [last])] at hwalk
    have hend := walk_append_of_no_link hdots hlinks hwalk
    rw [walk] at hend
    rw [← hbelow, Except.ok.inj hend]
    exact hget

end FileSystem
end MarkerAudit
