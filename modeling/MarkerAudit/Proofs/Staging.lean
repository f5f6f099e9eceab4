import MarkerAudit.Proofs.Edit
import MarkerAudit.Proofs.Index
import MarkerAudit.Repository.Staging

/-!
# What changes of a repository do

A change of a repository writes one file, its index or its configuration. The index that is read afterwards is the one
that the change makes of the index before, and everything else stays as it is.
-/

namespace MarkerAudit

open Ascii

namespace Repository

variable {fs fs' : FileSystem} {r : Repository} {l : Location} {name : String} {path : Bytes} {ix ix' : Index}
  {change : Index → Except StagingError Index}

/-! ## Files of a repository -/

/-- The directory can keep a file of that name: one is there, or nothing is. -/
structure CanKeep (fs : FileSystem) (l : Location) (name : String) : Prop
    extends fs.HasPlace l name.toUTF8.toList where
  free : fs.root.get? (l ++ [name.toUTF8.toList]) = none ∨
    ∃ content, fs.root.get? (l ++ [name.toUTF8.toList]) = some (.file content)

theorem below_eq (hname : IsName name.toUTF8.toList) :
    below l name = FileSystem.absolutePath (l ++ [name.toUTF8.toList]) := by
  rw [below, segments_of_not_mem hname.no_slash]

theorem CanKeep.node_of_missing (h : CanKeep fs l name) (hnone : fs.root.get? (l ++ [name.toUTF8.toList]) = none) :
    fs.node (below l name) = .error .notFound := by
  rw [below_eq h.isName]
  exact h.toHasPlace.node_of_missing hnone

theorem CanKeep.node_of_file (h : CanKeep fs l name) {content : Bytes}
    (hfile : fs.root.get? (l ++ [name.toUTF8.toList]) = some (.file content)) :
    fs.node (below l name) = .ok (.file content) := by
  rw [below_eq h.isName]
  exact h.toHasPlace.node_of_get? hfile (fun _ h => Node.noConfusion h)

/-- A file that is written is read back, and the tree has one change. -/
theorem CanKeep.exists_writeFile (h : CanKeep fs l name) (content : Bytes) :
    ∃ fs', fs.writeFile (below l name) content = .ok fs' ∧ fileAt? fs' (below l name) = some content ∧
      fs.root.ChangedAt fs'.root (l ++ [name.toUTF8.toList]) := by
  rw [below_eq h.isName]
  obtain ⟨fs', hwrite, hnode, hchanged⟩ := h.toHasPlace.exists_writeFile h.free content
  exact ⟨fs', hwrite, by rw [fileAt?, hnode], hchanged⟩

theorem leadsSomewhere_of_fileAt? {content : Bytes} (h : fileAt? fs path = some content) :
    fs.leadsSomewhere path = true := by
  unfold fileAt? at h
  split at h
  · rename_i hnode
    rw [FileSystem.leadsSomewhere, hnode]
  · cases h

/-! ## The index -/

/-- A repository whose directory can keep an index, found from a path, and what its index is. -/
structure HasIndex (fs : FileSystem) (path : Bytes) (r : Repository) (ix : Index) : Prop where
  found : gitDirectoryAt fs path = .ok r.gitDirectory
  canKeep : CanKeep fs r.gitDirectory "index"
  index : readIndex fs r = .ok ix

/-- An index that is kept was read from a file or is that of a repository without one. -/
theorem HasIndex.isStorable (h : HasIndex fs path r ix) : ∀ e ∈ ix, e.IsStorable := by
  have hread := h.index
  unfold readIndex at hread
  dsimp only at hread
  split at hread
  · cases hread
    exact List.forall_mem_nil _
  · split at hread
    · rename_i hdecode
      cases hread
      obtain ⟨_, _, hdecode⟩ := Option.bind_eq_some_iff.mp hdecode
      exact Index.isStorable_of_decode? hdecode
    · cases hread

/-- A change of the index starts from the index that is read. -/
theorem HasIndex.changeIndex_eq (h : HasIndex fs path r ix) (change : Index → Except StagingError Index) :
    changeIndex fs path change =
      change ix >>= fun ix' => placed (fs.writeFile (below r.gitDirectory "index") ix'.encode) := by
  have hread := h.index
  rw [changeIndex, h.found]
  simp only [bind, Except.bind]
  rcases h.canKeep.free with hnone | ⟨content, hfile⟩
  · have hnode := h.canKeep.node_of_missing hnone
    rw [readIndex, FileSystem.leadsSomewhere, hnode] at hread
    cases hread
    simp only [fileAt?, hnode]
    rfl
  · have hnode := h.canKeep.node_of_file hfile
    simp only [readIndex, FileSystem.leadsSomewhere, fileAt?, hnode, Option.bind_some] at hread
    cases hdecode : Index.decode? content with
    | none =>
        rw [hdecode] at hread
        cases hread
    | some ix₀ =>
        rw [hdecode] at hread
        cases hread
        simp only [fileAt?, hnode, hdecode]
        rfl

/-- An index that the change makes of the one before is the one that is read afterwards, and nothing but its file
changes. -/
theorem HasIndex.exists_changeIndex (h : HasIndex fs path r ix) (hchange : change ix = .ok ix')
    (hstorable : ∀ e ∈ ix', e.IsStorable) (hcount : ix'.length < 256 ^ 4) :
    ∃ fs', changeIndex fs path change = .ok fs' ∧ readIndex fs' r = .ok ix' ∧
      fs.root.ChangedAt fs'.root (r.gitDirectory ++ ["index".toUTF8.toList]) := by
  obtain ⟨fs', hwrite, hfile, hchanged⟩ := h.canKeep.exists_writeFile ix'.encode
  refine ⟨fs', ?_, ?_, hchanged⟩
  · rw [h.changeIndex_eq, hchange]
    exact congrArg placed hwrite
  · rw [readIndex, leadsSomewhere_of_fileAt? hfile]
    simp only [hfile, Option.bind_some, Index.decode?_encode hstorable hcount]
    rfl

/-- Entries that are recorded are put in one after another. -/
theorem HasIndex.exists_record (h : HasIndex fs path r ix) {es : List IndexEntry} (hes : ∀ e ∈ es, e.IsStorable)
    (hcount : (es.foldl Index.insert ix).length < 256 ^ 4) :
    ∃ fs', record fs path es = .ok fs' ∧ readIndex fs' r = .ok (es.foldl Index.insert ix) ∧
      fs.root.ChangedAt fs'.root (r.gitDirectory ++ ["index".toUTF8.toList]) :=
  h.exists_changeIndex rfl (Index.isStorable_foldl_insert h.isStorable hes) hcount

/-! ## Staging -/

/-- The entry that a file of the work tree is staged as. -/
def stagedAs? (fs : FileSystem) (path file : Bytes) : Option IndexEntry :=
  match (fs.locate false (Path.join path file)).toOption.bind fs.root.get? with
  | some (.file _) => some { path := indexPath file }
  | some (.symlink _) => some { path := indexPath file, kind := .symlink }
  | _ => none

theorem zero_not_mem_indexPath {file : Bytes} (h : 0 ∉ file) : 0 ∉ indexPath file := by
  intro h0
  obtain ⟨name, hname, h0⟩ := List.mem_flatMap.mp (List.mem_of_mem_drop h0)
  rcases List.mem_cons.mp h0 with h0 | h0
  · cases h0
  · exact h (subset_of_mem_segments (List.mem_of_mem_filter hname) h0)

theorem isStorable_of_stagedAs? {file : Bytes} {e : IndexEntry} (h : stagedAs? fs path file = some e) :
    e.IsStorable := by
  have hzero : 0 ∉ Path.join path file := by
    intro h0
    have hnone : (fs.locate false (Path.join path file)).toOption = none := by
      rw [FileSystem.locate, if_pos (List.contains_iff_mem.mpr h0)]
      rfl
    rw [stagedAs?, hnone] at h
    cases h
  have hfile : 0 ∉ file := by
    intro h0
    refine hzero ?_
    unfold Path.join
    split
    · exact h0
    · split
      · exact List.mem_append_right _ h0
      · exact List.mem_append_right _ (List.mem_cons_of_mem _ h0)
  unfold stagedAs? at h
  split at h
  · cases h
    exact ⟨zero_not_mem_indexPath hfile, Nat.zero_lt_succ 3⟩
  · cases h
    exact ⟨zero_not_mem_indexPath hfile, Nat.zero_lt_succ 3⟩
  · cases h

theorem foldlM_stage {files : List Bytes} {es : List IndexEntry} (h : files.mapM (stagedAs? fs path) = some es) :
    (∀ e ∈ es, e.IsStorable) ∧ (files.foldlM (fun ix file =>
      match (fs.locate false (Path.join path file)).toOption.bind fs.root.get? with
      | some (.file _) => .ok (Index.insert ix { path := indexPath file })
      | some (.symlink _) => .ok (Index.insert ix { path := indexPath file, kind := .symlink })
      | _ => .error .noFile) ix : Except StagingError Index) = .ok (es.foldl Index.insert ix) := by
  induction files generalizing ix es with
  | nil =>
      cases h
      exact ⟨List.forall_mem_nil _, rfl⟩
  | cons file files ih =>
      rw [List.mapM_cons, Option.bind_eq_bind, Option.bind_eq_some_iff] at h
      obtain ⟨e, he, h⟩ := h
      obtain ⟨es', hes', hcons⟩ := Option.bind_eq_some_iff.mp h
      cases hcons
      refine ⟨List.forall_mem_cons.mpr ⟨isStorable_of_stagedAs? he, (@ih ix _ hes').1⟩, ?_⟩
      unfold stagedAs? at he
      rw [List.foldlM_cons]
      split at he
      · cases he
        exact (ih hes').2
      · cases he
        exact (ih hes').2
      · cases he

/-- Files that are there are staged as entries that are put in one after another. -/
theorem HasIndex.exists_stage (h : HasIndex fs path r ix) {files : List Bytes} {es : List IndexEntry}
    (hes : files.mapM (stagedAs? fs path) = some es) (hcount : (es.foldl Index.insert ix).length < 256 ^ 4) :
    ∃ fs', stage fs path files = .ok fs' ∧ readIndex fs' r = .ok (es.foldl Index.insert ix) ∧
      fs.root.ChangedAt fs'.root (r.gitDirectory ++ ["index".toUTF8.toList]) := by
  obtain ⟨hstorable, hstage⟩ := @foldlM_stage _ _ ix _ _ hes
  exact h.exists_changeIndex hstage (Index.isStorable_foldl_insert h.isStorable hstorable) hcount

theorem foldlM_unstage {files : List Bytes} (htracked : ∀ file ∈ files, indexPath file ∈ ix.paths)
    (honce : (files.map indexPath).Nodup) :
    (files.foldlM (fun ix file =>
      if ix.any (·.path = indexPath file) then .ok (Index.erase ix (indexPath file)) else .error .noFile) ix :
      Except StagingError Index) = .ok (ix.filter fun e => e.path ∉ files.map indexPath) := by
  induction files generalizing ix with
  | nil => simp [pure, Except.pure]
  | cons file files ih =>
      obtain ⟨hfile, hfiles⟩ := List.forall_mem_cons.mp htracked
      rw [List.map_cons, List.nodup_cons] at honce
      have hany : ix.any (·.path = indexPath file) = true := by
        simpa [Index.paths] using hfile
      have hrest : ∀ file' ∈ files, indexPath file' ∈ (Index.erase ix (indexPath file)).paths := by
        intro file' hm
        obtain ⟨e, he, hpath⟩ := List.mem_map.mp (hfiles file' hm)
        refine List.mem_map.mpr ⟨e, List.mem_filter.mpr ⟨he, decide_eq_true fun hsame => honce.1 ?_⟩, hpath⟩
        exact hsame ▸ hpath ▸ List.mem_map_of_mem hm
      rw [List.foldlM_cons, hany, if_pos rfl]
      refine (ih hrest honce.2).trans ?_
      rw [Index.erase, List.filter_filter]
      refine congrArg Except.ok (List.filter_congr fun e _ => ?_)
      simp [Bool.and_comm]

/-- Tracked paths that are taken out, each once, are those that go. -/
theorem HasIndex.exists_unstage (h : HasIndex fs path r ix) {files : List Bytes}
    (htracked : ∀ file ∈ files, indexPath file ∈ ix.paths) (honce : (files.map indexPath).Nodup)
    (hcount : ix.length < 256 ^ 4) :
    ∃ fs', unstage fs path files = .ok fs' ∧
      readIndex fs' r = .ok (ix.filter fun e => e.path ∉ files.map indexPath) ∧
      fs.root.ChangedAt fs'.root (r.gitDirectory ++ ["index".toUTF8.toList]) := by
  refine h.exists_changeIndex (foldlM_unstage htracked honce) ?_ ?_
  · exact fun e he => h.isStorable e (List.mem_of_mem_filter he)
  · exact Nat.lt_of_le_of_lt (List.length_filter_le _ ix) hcount

/-! ## The configuration -/

/-- A value that is set stands at the end of the configuration. -/
theorem exists_configure (hfound : gitDirectoryAt fs path = .ok l) (h : CanKeep fs l "config") (name value : Bytes) :
    ∃ fs', configure fs path name value = .ok fs' ∧ fileAt? fs' (below l "config") =
        some ((fileAt? fs (below l "config")).getD [] ++ Config.renderEntry name value) ∧
      fs.root.ChangedAt fs'.root (l ++ ["config".toUTF8.toList]) := by
  obtain ⟨fs', hwrite, hfile, hchanged⟩ :=
    h.exists_writeFile ((fileAt? fs (below l "config")).getD [] ++ Config.renderEntry name value)
  refine ⟨fs', ?_, hfile, hchanged⟩
  rw [configure, hfound]
  exact congrArg placed hwrite

end Repository
end MarkerAudit
