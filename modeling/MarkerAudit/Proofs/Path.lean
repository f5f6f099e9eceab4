import MarkerAudit.Proofs.FileTree

/-!
# Resolving paths

The path of a location, seen from the current directory, leads to what is at the location.
-/

namespace MarkerAudit

open Ascii

variable {l : Location}

namespace Path

theorem components_intercalate {names : List Name} (hne : names ≠ [])
    (h : ∀ name ∈ names, name ≠ [] ∧ slash ∉ name) : components ([slash].intercalate names) = names := by
  have hsegs : segments slash ([slash].intercalate names) = names := by
    rw [segments_eq_splitOn, List.splitOn_intercalate slash (fun name hm => (h name hm).2) hne]
  have hlast : ([slash].intercalate names).getLast? ≠ some slash := by
    intro hlast
    obtain ⟨start, heq⟩ := List.getLast?_eq_some_iff.mp hlast
    rw [heq, segments_eq_splitOn, List.splitOn_append_cons_self] at hsegs
    have hempty : [] ∈ names := by
      rw [← hsegs, List.splitOn_nil]
      exact List.mem_append_right _ List.mem_cons_self
    exact (h [] hempty).1 rfl
  rw [components, hsegs, if_neg hlast, List.append_nil, List.filter_eq_self]
  intro name hm
  simpa using (h name hm).1

theorem join_period_path (hl0 : l ≠ []) (hl : ∀ name ∈ l, IsName name) :
    join [period] l.path = [slash].intercalate (dot :: l) := by
  cases l with
  | nil => exact absurd rfl hl0
  | cons name l =>
      have hname := hl name List.mem_cons_self
      rw [List.intercalate_cons_cons, ← Location.path_eq_intercalate]
      cases name with
      | nil => exact absurd rfl hname.ne_nil
      | cons b bs =>
          have hb : b ≠ slash := fun he => hname.no_slash (he ▸ List.mem_cons_self)
          have habs : isAbsolute (Location.path ((b :: bs) :: l)) = false := by
            simpa [isAbsolute, Location.path] using hb
          rw [join, habs]
          rfl

end Path

namespace FileSystem

/-- Going through names leads to where they say, if that is no symlink. -/
theorem walk_of_get? {root c : Node} {followLast : Bool} {here : Location}
    {follow : Location → Bytes → List Name → Except PathError Location} (hl : ∀ name ∈ l, IsName name)
    (h : root.get? (here ++ l) = some c) (hc : ∀ target, c ≠ .symlink target) :
    walk root followLast follow l here = .ok (here ++ l) := by
  induction l generalizing here with
  | nil => rw [walk, List.append_nil]
  | cons name l ih =>
      have hname := hl name List.mem_cons_self
      have hnext : here ++ name :: l = here ++ [name] ++ l := by simp
      obtain ⟨d, hd, hrest⟩ := Option.bind_eq_some_iff.mp (Node.get?_append root here (name :: l) ▸ h)
      rw [Node.get?_cons] at hrest
      obtain ⟨next, hchild, hrest⟩ := Option.bind_eq_some_iff.mp hrest
      obtain ⟨entries, rfl⟩ := Node.exists_entries_of_child? hchild
      have hsteps : walk root followLast follow l (here ++ [name]) = .ok (here ++ name :: l) := by
        rw [hnext] at h ⊢
        exact ih (fun name' hm => hl name' (List.mem_cons_of_mem _ hm)) h
      rw [walk, hd]
      simp only [hname.ne_dot, hname.ne_dotDot, Nat.not_lt.mpr hname.length_le, if_false, hchild]
      cases next with
      | symlink target =>
          -- nothing is below a symlink, and it is not what the names lead to
          cases l with
          | nil => exact absurd (Option.some.inj hrest).symm (hc target)
          | cons _ _ => cases hrest
      | _ => exact hsteps

variable {fs : FileSystem} {entries : List (Name × Node)} {c : Node}

theorem walkLinks_of_get? {links : Nat} (hcurrent : fs.root.get? fs.current = some (.directory entries))
    (hl : ∀ name ∈ l, IsName name) (h : (Node.directory entries).get? l = some c)
    (hc : ∀ target, c ≠ .symlink target) :
    walkLinks fs.root true links (Path.dot :: l) fs.current = .ok (fs.current ++ l) := by
  have hget : fs.root.get? (fs.current ++ l) = some c := by
    rw [Node.get?_append, hcurrent]
    exact h
  have hwalk : ∀ follow, walk fs.root true follow (Path.dot :: l) fs.current = .ok (fs.current ++ l) := by
    intro follow
    rw [walk, hcurrent]
    exact walk_of_get? hl hget hc
  cases links with
  | zero => exact hwalk _
  | succ links => exact hwalk _

theorem locate_intercalate (hcurrent : fs.root.get? fs.current = some (.directory entries))
    (hl : ∀ name ∈ l, IsName name) (h : (Node.directory entries).get? l = some c)
    (hc : ∀ target, c ≠ .symlink target) (hlength : ([slash].intercalate (Path.dot :: l)).length ≤ Path.maxPath) :
    fs.locate true ([slash].intercalate (Path.dot :: l)) = .ok (fs.current ++ l) := by
  have hnames : ∀ name ∈ Path.dot :: l, name ≠ [] ∧ slash ∉ name := by
    intro name hm
    rcases List.mem_cons.mp hm with rfl | hm
    · exact ⟨List.cons_ne_nil _ _, by decide⟩
    · exact ⟨(hl name hm).ne_nil, (hl name hm).no_slash⟩
  have hcomponents := Path.components_intercalate (List.cons_ne_nil _ _) hnames
  rw [← append_flatMap_eq_intercalate] at hlength hcomponents ⊢
  have hzero : 0 ∉ Path.dot ++ l.flatMap ([slash] ++ ·) := by
    intro h0
    rcases List.mem_append.mp h0 with h0 | h0
    · cases List.mem_singleton.mp h0
    · obtain ⟨name, hm, h0⟩ := List.mem_flatMap.mp h0
      rcases List.mem_cons.mp h0 with h0 | h0
      · cases h0
      · exact (hl name hm).no_zero h0
  have hempty : (Path.dot ++ l.flatMap ([slash] ++ ·)).isEmpty = false := rfl
  have habs : Path.isAbsolute (Path.dot ++ l.flatMap ([slash] ++ ·)) = false := rfl
  rw [locate, if_neg (by simpa using hzero), hempty, if_neg Bool.false_ne_true,
    if_neg (Nat.not_lt.mpr hlength), hcomponents, habs]
  exact walkLinks_of_get? hcurrent hl h hc

theorem node_intercalate (hcurrent : fs.root.get? fs.current = some (.directory entries))
    (hl : ∀ name ∈ l, IsName name) (h : (Node.directory entries).get? l = some c)
    (hc : ∀ target, c ≠ .symlink target) (hlength : ([slash].intercalate (Path.dot :: l)).length ≤ Path.maxPath) :
    fs.node ([slash].intercalate (Path.dot :: l)) = .ok c := by
  have hget : fs.root.get? (fs.current ++ l) = some c := by
    rw [Node.get?_append, hcurrent]
    exact h
  rw [node, locate_intercalate hcurrent hl h hc hlength]
  simp only [hget]

theorem node_period (hcurrent : fs.root.get? fs.current = some (.directory entries)) :
    fs.node [period] = .ok (.directory entries) :=
  node_intercalate hcurrent (List.forall_mem_nil _) rfl (fun _ h => Node.noConfusion h) (by decide)

/-- The path of a location in the current directory leads to what is there. -/
theorem node_join_period (hcurrent : fs.root.get? fs.current = some (.directory entries))
    (hwell : (Node.directory entries).WellFormed) (hl0 : l ≠ []) (h : (Node.directory entries).get? l = some c)
    (hc : ∀ target, c ≠ .symlink target) (hlength : (Path.join [period] l.path).length ≤ Path.maxPath) :
    fs.node (Path.join [period] l.path) = .ok c := by
  have hnames := hwell.isName h
  rw [Path.join_period_path hl0 hnames] at hlength ⊢
  exact node_intercalate hcurrent hnames h hc hlength

end FileSystem
end MarkerAudit
