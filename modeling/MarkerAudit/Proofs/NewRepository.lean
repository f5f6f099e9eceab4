import MarkerAudit.Proofs.Staging

/-!
# What a new repository is

Where nothing is, a repository that is made is found from its work tree, or from its own directory if it is bare, and
its index is empty. Where a directory is, everything in it stays.
-/

namespace MarkerAudit

open Ascii

namespace Repository

variable {fs : FileSystem} {l : Location} {part : String} {path : Bytes} {bare : Bool} {name : Name} {c : Node}

/-! ## What its directory holds -/

theorem names_newDirectory (bare : Bool) : (newDirectory bare).entries.map Prod.fst =
    ["HEAD", "config", "description", "branches", "hooks", "info", "objects", "refs"].map (·.toUTF8.toList) :=
  rfl

theorem nodup_newDirectory (bare : Bool) : ((newDirectory bare).entries.map Prod.fst).Nodup := by
  rw [names_newDirectory]
  decide +kernel

/-- The configuration that is written is read as one of a known format that tells whether there is a work tree, and
names none. -/
theorem exists_newConfig (bare : Bool) : ∃ config, Config.ofFile? (newConfig bare).toUTF8.toList = some config ∧
    isKnownFormat config = true ∧ (config.get? "core.bare").map Config.bool? = some (some bare) ∧
    config.get? "core.worktree" = none := by
  have hread : (Config.ofFile? (newConfig bare).toUTF8.toList).map (fun config =>
      (isKnownFormat config, (config.get? "core.bare").map Config.bool?, config.get? "core.worktree")) =
      some (true, some (some bare), none) := by
    cases bare <;> decide +kernel
  obtain ⟨config, hconfig, hvalues⟩ := Option.map_eq_some_iff.mp hread
  simp only [Prod.mk.injEq] at hvalues
  exact ⟨config, hconfig, hvalues⟩

/-- The names that are looked at in a directory to find a repository and to open it. -/
def partNames : List String := [".git", "HEAD", "config", "objects", "refs", "index", "commondir", "gitdir"]

theorem isName_of_mem_partNames : ∀ part ∈ partNames, IsName part.toUTF8.toList ∧ part.toUTF8.toList.length ≤ 9 := by
  decide +kernel

/-- A location holds the directory of a new repository, and there is room for the paths of its parts. -/
structure IsNewAt (fs : FileSystem) (l : Location) (bare : Bool) : Prop where
  holds : fs.root.get? l = some (newDirectory bare)
  places : ∀ part ∈ partNames, fs.HasPlace l part.toUTF8.toList

theorem IsNewAt.node_of_mem (h : IsNewAt fs l bare) (hpart : part ∈ partNames)
    (hmem : (part.toUTF8.toList, c) ∈ (newDirectory bare).entries) (hc : ∀ target, c ≠ .symlink target) :
    fs.node (FileSystem.absolutePath (l ++ [part.toUTF8.toList])) = .ok c :=
  (h.places part hpart).node_of_get?
    ((Node.get?_append_singleton h.holds _).trans (Node.child?_of_mem_entries (nodup_newDirectory bare) hmem)) hc

theorem IsNewAt.get?_of_not_mem (h : IsNewAt fs l bare)
    (hmem : part.toUTF8.toList ∉ (newDirectory bare).entries.map Prod.fst) :
    fs.root.get? (l ++ [part.toUTF8.toList]) = none :=
  (Node.get?_append_singleton h.holds _).trans (Node.child?_of_not_mem hmem)

theorem IsNewAt.fileAt?_eq_none (h : IsNewAt fs l bare) (hpart : part ∈ partNames)
    (hmem : part.toUTF8.toList ∉ (newDirectory bare).entries.map Prod.fst) : fileAt? fs (below l part) = none := by
  rw [fileAt?, below_eq (isName_of_mem_partNames part hpart).1,
    (h.places part hpart).node_of_missing (h.get?_of_not_mem hmem)]

/-- Nothing is shared with another repository. -/
theorem IsNewAt.shared_eq (h : IsNewAt fs l bare) (hpart : part ∈ partNames) :
    shared fs l part = FileSystem.absolutePath (l ++ [part.toUTF8.toList]) := by
  have hcommon : fileAt? fs (below l "commondir") = none :=
    h.fileAt?_eq_none (by simp [partNames]) (by rw [names_newDirectory]; decide +kernel)
  rw [shared, pathIn?, hcommon, Option.map_none, Option.getD_none]
  exact FileSystem.join_absolutePath (h.places part hpart).names (h.places part hpart).isName

theorem IsNewAt.isGitDirectory_eq (h : IsNewAt fs l bare) : isGitDirectory fs l = true := by
  have hhead : fileAt? fs (below l "HEAD") = some "ref: refs/heads/master\n".toUTF8.toList := by
    rw [fileAt?, below_eq (isName_of_mem_partNames "HEAD" (by simp [partNames])).1,
      h.node_of_mem (by simp [partNames]) List.mem_cons_self (fun _ h => Node.noConfusion h)]
    rfl
  have hobjects : isDirectoryAt fs (shared fs l "objects") = true := by
    rw [isDirectoryAt, h.shared_eq (by simp [partNames]),
      h.node_of_mem (by simp [partNames]) (@List.mem_of_getElem? _ _ 6 _ rfl) (fun _ h => Node.noConfusion h)]
    rfl
  have hrefs : isDirectoryAt fs (shared fs l "refs") = true := by
    rw [isDirectoryAt, h.shared_eq (by simp [partNames]),
      h.node_of_mem (by simp [partNames]) (@List.mem_of_getElem? _ _ 7 _ rfl) (fun _ h => Node.noConfusion h)]
    rfl
  rw [isGitDirectory, hhead, hobjects, hrefs]
  rfl

/-- It opens as a repository with the directory above it as work tree, or with none if it is bare. -/
theorem IsNewAt.exists_openAt (h : IsNewAt fs l bare) : ∃ config,
    openAt fs l = .ok { gitDirectory := l, config, workTree := if bare then none else some l.dropLast } := by
  obtain ⟨config, hread, hknown, hbare, htree⟩ := exists_newConfig bare
  have hfile : fileAt? fs (shared fs l "config") = some (newConfig bare).toUTF8.toList := by
    rw [fileAt?, h.shared_eq (by simp [partNames]),
      h.node_of_mem (by simp [partNames]) (@List.mem_of_getElem? _ _ 1 _ rfl) (fun _ h => Node.noConfusion h)]
    rfl
  have hconfig : readConfig fs l = .ok config := by
    rw [readConfig, hfile]
    simp only [hread]
  have hlink : pathIn? fs l "gitdir" = none := by
    rw [pathIn?, h.fileAt?_eq_none (by simp [partNames]) (by rw [names_newDirectory]; decide +kernel), Option.map_none]
  refine ⟨config, ?_⟩
  rw [openAt, hconfig]
  simp only [hknown, hbare, hlink, workTreeOf, htree]
  cases bare <;> rfl

theorem IsNewAt.hasIndex (h : IsNewAt fs l bare) (hfound : gitDirectoryAt fs path = .ok l) {r : Repository}
    (hr : r.gitDirectory = l) : HasIndex fs path r [] := by
  have hmissing : fs.root.get? (l ++ ["index".toUTF8.toList]) = none :=
    h.get?_of_not_mem (by rw [names_newDirectory]; decide +kernel)
  subst hr
  have hkeep : CanKeep fs r.gitDirectory "index" := ⟨h.places "index" (by simp [partNames]), .inl hmissing⟩
  refine ⟨hfound, hkeep, ?_⟩
  rw [readIndex, FileSystem.leadsSomewhere, hkeep.node_of_missing hmissing]
  rfl

/-! ## Making it -/

/-- Where a repository is made, its directory is made if need be and filled in. What is there stays, and so does
everything elsewhere. -/
theorem exists_create (h : fs.HasPlace l name)
    (hpath : (if bare then path else Path.join path dotGit) = FileSystem.absolutePath (l ++ [name]))
    (hfree : fs.root.get? (l ++ [name]) = none ∨ ∃ es, fs.root.get? (l ++ [name]) = some (.directory es)) :
    ∃ fs', create fs path bare = .ok fs' ∧
      fs'.root.get? (l ++ [name]) =
        some (((fs.root.get? (l ++ [name])).getD (.directory [])).fill (newDirectory bare)) ∧
      fs.root.Extends fs'.root ∧
      ∀ m, ¬ l ++ [name] <+: m → (fs'.root.get? m).map Node.bare = (fs.root.get? m).map Node.bare := by
  obtain ⟨entries, hdirectory⟩ := h.directory
  rw [create, hpath]
  rcases hfree with hnone | ⟨es, hes⟩
  · have hmade : ((fs.set (l ++ [name]) (some (.directory []))).root.get? (l ++ [name])) = some (.directory []) :=
      Node.get?_set_self hdirectory
    have habove : (fs.set (l ++ [name]) (some (.directory []))).root.get? l =
        some (.directory (Node.setEntry name (some (.directory [])) entries)) :=
      Node.get?_set_parent hdirectory _ _
    rw [h.makeDirectory_of_missing hnone, hnone]
    simp only [placed, bind, Except.bind, pure, Except.pure, hmade, Option.getD_some, Option.getD_none]
    refine ⟨_, rfl, Node.get?_set_self habove, ?_, fun m hm => ?_⟩
    · refine (Node.extends_set hdirectory fun old hold => ?_).trans (Node.extends_set habove fun old hold => ?_)
      · exact absurd (hnone.symm.trans hold) (Option.some_ne_none old).symm
      · cases hmade.symm.trans hold
        exact Node.extends_fill _ _
    · exact (Node.map_bare_get?_set habove hm).trans (Node.map_bare_get?_set hdirectory hm)
  · rw [h.makeDirectory_of_directory hes, hes]
    simp only [placed, bind, Except.bind, pure, Except.pure, hes, Option.getD_some]
    refine ⟨_, rfl, Node.get?_set_self hdirectory, Node.extends_set hdirectory fun old hold => ?_,
      fun m hm => Node.map_bare_get?_set hdirectory hm⟩
    cases hes.symm.trans hold
    exact Node.extends_fill _ _

/-- What is made where nothing is is a new repository. -/
theorem exists_create_new (h : fs.HasPlace l name)
    (hpath : (if bare then path else Path.join path dotGit) = FileSystem.absolutePath (l ++ [name]))
    (hnone : fs.root.get? (l ++ [name]) = none)
    (hroom : (FileSystem.absolutePath (l ++ [name])).length + 10 ≤ Path.maxPath) :
    ∃ fs', create fs path bare = .ok fs' ∧ fs'.HasPlace l name ∧ IsNewAt fs' (l ++ [name]) bare := by
  obtain ⟨entries, hdirectory⟩ := h.directory
  obtain ⟨fs', hcreate, hget, _, helsewhere⟩ := exists_create h hpath (.inl hnone)
  have hfill : (Node.directory []).fill (newDirectory bare) = newDirectory bare :=
    Node.fill_nil (nodup_newDirectory bare)
  rw [hnone, Option.getD_none, hfill] at hget
  have hself : ¬ l ++ [name] <+: l := fun hpre => absurd hpre.length_le (by simp)
  have hplace : fs'.HasPlace l name :=
    ⟨h.names, h.isName, Node.exists_directory_of_map_bare (helsewhere l hself) hdirectory, h.room⟩
  refine ⟨fs', hcreate, hplace, hget, fun part hpart => hplace.append hget (isName_of_mem_partNames part hpart).1 ?_⟩
  have hlength : (FileSystem.absolutePath (l ++ [name] ++ [part.toUTF8.toList])).length =
      (FileSystem.absolutePath (l ++ [name])).length + (part.toUTF8.toList.length + 1) := by
    rw [FileSystem.absolutePath_append, FileSystem.absolutePath, if_neg (by simp), List.length_append, List.length_cons]
  have hpartLength := (isName_of_mem_partNames part hpart).2
  omega

theorem gitDirectoryAt_of_bare (h : fs.HasPlace l name) (hnew : IsNewAt fs (l ++ [name]) true) :
    gitDirectoryAt fs (FileSystem.absolutePath (l ++ [name])) = .ok (l ++ [name]) := by
  have hplace : fs.HasPlace (l ++ [name]) dotGit := hnew.places ".git" (by simp [partNames])
  have hnone : fs.root.get? (l ++ [name] ++ [dotGit]) = none :=
    hnew.get?_of_not_mem (by rw [names_newDirectory]; decide +kernel)
  have hlocate := FileSystem.locate_absolutePath h.names h.isName hnew.holds (fun _ h => Node.noConfusion h) h.room
  rw [gitDirectoryAt, FileSystem.join_absolutePath hplace.names hplace.isName]
  simp only [List.findSome?, resolve, hplace.locate_of_missing hnone, hlocate, hnew.isGitDirectory_eq, if_true]

theorem gitDirectoryAt_of_work_tree (h : fs.HasPlace l dotGit) (hnew : IsNewAt fs (l ++ [dotGit]) false) :
    gitDirectoryAt fs (FileSystem.absolutePath l) = .ok (l ++ [dotGit]) := by
  have hlocate := FileSystem.locate_absolutePath h.names h.isName hnew.holds (fun _ h => Node.noConfusion h) h.room
  rw [gitDirectoryAt, FileSystem.join_absolutePath h.names h.isName]
  simp only [List.findSome?, resolve, hlocate, hnew.isGitDirectory_eq, if_true]

/-- From the work tree of a new repository its directory is found first. -/
theorem discover_of_work_tree (h : fs.HasPlace l dotGit) (hl : l ≠ []) (hnew : IsNewAt fs (l ++ [dotGit]) false) :
    discover fs (FileSystem.absolutePath l) = openAt fs (l ++ [dotGit]) := by
  obtain ⟨entries, hdirectory⟩ := h.directory
  have hlocate := FileSystem.locate_absolutePath h.names h.isName hnew.holds (fun _ h => Node.noConfusion h) h.room
  cases l using List.reverseRecOn with
  | nil => exact absurd rfl hl
  | append_singleton l name =>
      obtain ⟨hnames, hname⟩ := List.forall_mem_append.mp h.names
      have hroom : (FileSystem.absolutePath (l ++ [name])).length ≤ Path.maxPath := by
        refine Nat.le_trans ?_ h.room
        rw [FileSystem.absolutePath_append (l ++ [name]), FileSystem.absolutePath, if_neg (by simp), List.length_append]
        exact Nat.le_add_right _ _
      have hstart := FileSystem.locate_absolutePath hnames (hname name List.mem_cons_self) hdirectory
        (fun _ h => Node.noConfusion h) hroom
      have hsearch : search fs (l ++ [name]).reverse = .ok (l ++ [name] ++ [dotGit]) := by
        rw [List.reverse_append, List.reverse_singleton, List.singleton_append, search, List.reverse_cons,
          List.reverse_reverse, at?, hlocate]
        simp only [hnew.holds, newDirectory, hnew.isGitDirectory_eq, if_true]
      rw [discover, resolve, hstart]
      simp only [hsearch, resolve, hlocate]

/-- A repository that is made in a directory is found from there with the directory as its work tree, and its index is
empty. -/
theorem exists_create_work_tree (h : fs.HasPlace l dotGit) (hl : l ≠ []) (hnone : fs.root.get? (l ++ [dotGit]) = none)
    (hroom : (FileSystem.absolutePath (l ++ [dotGit])).length + 10 ≤ Path.maxPath) :
    ∃ fs' r, create fs (FileSystem.absolutePath l) false = .ok fs' ∧ discover fs' (FileSystem.absolutePath l) = .ok r ∧
      r.gitDirectory = l ++ [dotGit] ∧ r.workTree = some l ∧ HasIndex fs' (FileSystem.absolutePath l) r [] := by
  obtain ⟨fs', hcreate, hplace, hnew⟩ :=
    @exists_create_new fs l (FileSystem.absolutePath l) false dotGit h
      (FileSystem.join_absolutePath h.names h.isName) hnone hroom
  obtain ⟨config, hopen⟩ := hnew.exists_openAt
  refine ⟨fs', _, hcreate, (discover_of_work_tree hplace hl hnew).trans hopen, rfl, ?_,
    hnew.hasIndex (gitDirectoryAt_of_work_tree hplace hnew) rfl⟩
  rw [List.dropLast_concat]
  rfl

/-- A bare repository opens without a work tree, and its index is empty. -/
theorem exists_create_bare (h : fs.HasPlace l name) (hnone : fs.root.get? (l ++ [name]) = none)
    (hroom : (FileSystem.absolutePath (l ++ [name])).length + 10 ≤ Path.maxPath) :
    ∃ fs' r, create fs (FileSystem.absolutePath (l ++ [name])) true = .ok fs' ∧ openAt fs' (l ++ [name]) = .ok r ∧
      r.gitDirectory = l ++ [name] ∧ r.workTree = none ∧
      HasIndex fs' (FileSystem.absolutePath (l ++ [name])) r [] := by
  obtain ⟨fs', hcreate, hplace, hnew⟩ :=
    @exists_create_new fs l (FileSystem.absolutePath (l ++ [name])) true name h rfl hnone hroom
  obtain ⟨config, hopen⟩ := hnew.exists_openAt
  exact ⟨fs', _, hcreate, hopen, rfl, rfl, hnew.hasIndex (gitDirectoryAt_of_bare hplace hnew) rfl⟩

end Repository
end MarkerAudit
