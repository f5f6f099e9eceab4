import Mathlib.Data.List.Nodup
import Mathlib.Data.Set.List
import MarkerAudit.FileTree.Walk
import MarkerAudit.Proofs.Utf8

/-!
# Files below a directory

The files that are listed are those that a location leads to, each once. Where names are UTF-8, their paths are told
apart, come in the order of their bytes, and lead back to the files.
-/

namespace MarkerAudit

open Ascii

/-- The bytes may name an entry of a directory. -/
@[mk_iff]
structure IsName (name : Name) : Prop where
  ne_nil : name ≠ []
  no_slash : slash ∉ name
  no_zero : 0 ∉ name
  ne_dot : name ≠ Path.dot
  ne_dotDot : name ≠ Path.dotDot
  length_le : name.length ≤ Path.maxName

instance (name : Name) : Decidable (IsName name) := decidable_of_iff _ (isName_iff name).symm

namespace Node

/-- The tree is one that a file system can hold: every directory has entries with names, none of them twice. -/
def WellFormed (n : Node) : Prop :=
  ∀ l entries, n.get? l = some (.directory entries) → (entries.map Prod.fst).Nodup ∧ ∀ e ∈ entries, IsName e.1

variable {n c : Node} {name : Name} {l : Location}

/-! ## Locations -/

theorem get?_cons : n.get? (name :: l) = (n.child? name).bind (·.get? l) := by
  rw [get?]
  cases n.child? name <;> rfl

theorem get?_append (n : Node) (l m : Location) : n.get? (l ++ m) = (n.get? l).bind (·.get? m) := by
  induction l generalizing n with
  | nil => rfl
  | cons name l ih =>
      rw [List.cons_append, get?_cons, get?_cons]
      cases n.child? name with
      | none => rfl
      | some c => exact ih c

theorem mem_entries_of_child? (h : n.child? name = some c) : (name, c) ∈ n.entries := by
  obtain ⟨⟨name', c'⟩, hfind, rfl⟩ := Option.map_eq_some_iff.mp h
  have hname : name' = name := by simpa using List.find?_some hfind
  exact hname ▸ List.mem_of_find?_eq_some hfind

theorem child?_of_mem_entries (hnodup : (n.entries.map Prod.fst).Nodup) (h : (name, c) ∈ n.entries) :
    n.child? name = some c := by
  unfold child?
  generalize n.entries = entries at hnodup h
  induction entries with
  | nil => cases h
  | cons e entries ih =>
      rw [List.map_cons, List.nodup_cons] at hnodup
      rcases List.mem_cons.mp h with rfl | h
      · simp
      · have hne : e.1 ≠ name := by
          rintro rfl
          exact hnodup.1 (List.mem_map.mpr ⟨_, h, rfl⟩)
        rw [List.find?_cons_of_neg (by simpa using hne)]
        exact ih hnodup.2 h

theorem exists_entries_of_child? (h : n.child? name = some c) : ∃ entries, n = .directory entries := by
  cases n with
  | directory entries => exact ⟨entries, rfl⟩
  | _ => cases h

theorem WellFormed.child (hn : n.WellFormed) (h : n.child? name = some c) : c.WellFormed := by
  intro l entries hl
  refine hn (name :: l) entries ?_
  rw [get?_cons, h]
  exact hl

theorem WellFormed.of_get? (hn : n.WellFormed) (h : n.get? l = some c) : c.WellFormed := by
  intro m entries hm
  refine hn (l ++ m) entries ?_
  rw [get?_append, h]
  exact hm

/-- What holds of the entries of a directory and of all directories below it holds of every directory there. -/
theorem forall_directory {P : List (Name × Node) → Prop} {entries : List (Name × Node)} (h : P entries)
    (hbelow : ∀ e ∈ entries, ∀ l es, e.2.get? l = some (.directory es) → P es) :
    ∀ l es, (directory entries).get? l = some (.directory es) → P es := by
  intro l es hl
  cases l with
  | nil =>
      cases hl
      exact h
  | cons name l =>
      rw [get?_cons, Option.bind_eq_some_iff] at hl
      obtain ⟨c, hc, hl⟩ := hl
      exact hbelow _ (mem_entries_of_child? hc) l es hl

/-- There is no directory at or below what is no directory. -/
theorem forall_directory_of_not_isDirectory {P : List (Name × Node) → Prop} (h : n.isDirectory = false) :
    ∀ l es, n.get? l = some (.directory es) → P es := by
  intro l es hl
  cases n with
  | directory entries => cases h
  | _ => cases l <;> cases hl

/-- A directory is well-formed if its entries have different names and are well-formed. -/
theorem wellFormed_directory {entries : List (Name × Node)} (hnodup : (entries.map Prod.fst).Nodup)
    (hentries : ∀ e ∈ entries, IsName e.1 ∧ e.2.WellFormed) : (directory entries).WellFormed :=
  forall_directory ⟨hnodup, fun e he => (hentries e he).1⟩ fun e he => (hentries e he).2

theorem wellFormed_of_not_isDirectory (h : n.isDirectory = false) : n.WellFormed :=
  forall_directory_of_not_isDirectory h

theorem WellFormed.nodup (hn : n.WellFormed) : (n.entries.map Prod.fst).Nodup := by
  cases n with
  | directory entries => exact (hn [] entries rfl).1
  | _ => exact List.nodup_nil

/-- What holds of the names of all entries holds of the names in a location. -/
theorem forall_mem_of_get? {P : Name → Prop}
    (hP : ∀ l entries, n.get? l = some (.directory entries) → ∀ e ∈ entries, P e.1) (h : n.get? l = some c) :
    ∀ name ∈ l, P name := by
  induction l generalizing n with
  | nil => exact List.forall_mem_nil _
  | cons name l ih =>
      rw [get?_cons, Option.bind_eq_some_iff] at h
      obtain ⟨d, hd, hl⟩ := h
      refine List.forall_mem_cons.mpr ⟨?_, ih ?_ hl⟩
      · obtain ⟨entries, rfl⟩ := exists_entries_of_child? hd
        exact hP [] entries rfl _ (mem_entries_of_child? hd)
      · intro l' entries hl'
        refine hP (name :: l') entries ?_
        rw [get?_cons, hd]
        exact hl'

theorem WellFormed.isName (hn : n.WellFormed) (h : n.get? l = some c) : ∀ name ∈ l, IsName name :=
  forall_mem_of_get? (fun l entries hl => (hn l entries hl).2) h

/-! ## Files -/

theorem isFile_iff : n.isFile = true ↔ ∃ content, n = .file content := by
  cases n <;> simp [isFile]

theorem mem_filesOf {entries : List (Name × Node)} :
    l ∈ files.filesOf entries ↔
      ∃ name c rest, (name, c) ∈ entries ∧ l = name :: rest ∧ (c.isFile = true ∧ rest = [] ∨ rest ∈ c.files) := by
  induction entries with
  | nil => simp [files.filesOf]
  | cons e entries ih =>
      obtain ⟨name, c⟩ := e
      have hfirst : (l ∈ if c.isFile then [[name]] else c.files.map (name :: ·)) ↔
          ∃ rest, l = name :: rest ∧ (c.isFile = true ∧ rest = [] ∨ rest ∈ c.files) := by
        cases hc : c.isFile with
        | true =>
            obtain ⟨content, rfl⟩ := isFile_iff.mp hc
            simp [files]
        | false => simp [eq_comm, and_comm]
      rw [files.filesOf, List.mem_append, hfirst, ih]
      constructor
      · rintro (⟨rest, hl, hrest⟩ | ⟨name', c', rest, hmem, hl, hrest⟩)
        · exact ⟨name, c, rest, List.mem_cons_self, hl, hrest⟩
        · exact ⟨name', c', rest, List.mem_cons_of_mem _ hmem, hl, hrest⟩
      · rintro ⟨name', c', rest, hmem, hl, hrest⟩
        rcases List.mem_cons.mp hmem with heq | hmem
        · obtain ⟨rfl, rfl⟩ := Prod.mk.inj heq
          exact .inl ⟨rest, hl, hrest⟩
        · exact .inr ⟨name', c', rest, hmem, hl, hrest⟩

theorem files_eq_filesOf (n : Node) : n.files = files.filesOf n.entries := by
  cases n <;> rfl

/-- The files below a directory are what locations lead to without a symlink. -/
theorem mem_files_iff (hn : n.WellFormed) : l ∈ n.files ↔ l ≠ [] ∧ ∃ content, n.get? l = some (.file content) := by
  induction l generalizing n with
  | nil =>
      rw [files_eq_filesOf, mem_filesOf]
      simp
  | cons name l ih =>
      rw [files_eq_filesOf, mem_filesOf, get?_cons]
      constructor
      · rintro ⟨name', c, rest, hmem, heq, hrest⟩
        obtain ⟨rfl, rfl⟩ := List.cons.inj heq
        have hc := child?_of_mem_entries hn.nodup hmem
        refine ⟨List.cons_ne_nil _ _, ?_⟩
        rw [hc]
        rcases hrest with ⟨hfile, rfl⟩ | hrest
        · obtain ⟨content, rfl⟩ := isFile_iff.mp hfile
          exact ⟨content, rfl⟩
        · exact ((ih (hn.child hc)).mp hrest).2
      · rintro ⟨_, content, hget⟩
        obtain ⟨c, hc, hl⟩ := Option.bind_eq_some_iff.mp hget
        refine ⟨name, c, l, mem_entries_of_child? hc, rfl, ?_⟩
        cases l with
        | nil => exact .inl ⟨isFile_iff.mpr ⟨content, Option.some.inj hl⟩, rfl⟩
        | cons name' l => exact .inr ((ih (hn.child hc)).mpr ⟨List.cons_ne_nil _ _, content, hl⟩)

theorem sizeOf_lt_of_mem_entries {entries : List (Name × Node)} {e : Name × Node} (he : e ∈ entries) :
    sizeOf e.2 < sizeOf (directory entries) := by
  have hmem := List.sizeOf_lt_of_mem he
  obtain ⟨name, c⟩ := e
  simp only [Prod.mk.sizeOf_spec, directory.sizeOf_spec] at hmem ⊢
  omega

theorem filesOf_nodup {entries : List (Name × Node)} (hnames : (entries.map Prod.fst).Nodup)
    (hfiles : ∀ e ∈ entries, e.2.files.Nodup) : (files.filesOf entries).Nodup := by
  induction entries with
  | nil => exact List.nodup_nil
  | cons e entries ih =>
      obtain ⟨name, c⟩ := e
      rw [List.map_cons, List.nodup_cons] at hnames
      have hfirst : (if c.isFile then [[name]] else c.files.map (name :: ·)).Nodup := by
        split
        · exact List.nodup_singleton _
        · exact (hfiles _ List.mem_cons_self).map fun _ _ h => (List.cons.inj h).2
      -- the first names of two locations differ if they belong to different entries
      refine List.nodup_append'.mpr ⟨hfirst, ih hnames.2 fun e he => hfiles e (List.mem_cons_of_mem _ he), ?_⟩
      intro l hl hrest
      obtain ⟨name', c', rest, hmem, rfl, _⟩ := mem_filesOf.mp hrest
      have hname : name' = name := by
        split at hl
        · exact (List.cons.inj (List.mem_singleton.mp hl)).1
        · obtain ⟨_, _, heq⟩ := List.mem_map.mp hl
          exact (List.cons.inj heq).1.symm
      exact hnames.1 (List.mem_map.mpr ⟨_, hmem, hname⟩)

theorem files_nodup (n : Node) (hn : n.WellFormed) : n.files.Nodup := by
  cases n with
  | directory entries =>
      refine filesOf_nodup hn.nodup fun e he => ?_
      have hlt := sizeOf_lt_of_mem_entries he
      exact files_nodup e.2 (hn.child (child?_of_mem_entries hn.nodup he))
  | _ => exact List.nodup_nil
termination_by sizeOf n

/-! ## Texts as names -/

/-- All names at the node and below are UTF-8. -/
def HasTextNames (n : Node) : Prop :=
  ∀ l entries, n.get? l = some (.directory entries) → ∀ e ∈ entries, ∃ t, Utf8.encode t = e.1

theorem hasTextNames_directory {entries : List (Name × Node)}
    (hentries : ∀ e ∈ entries, (∃ t, Utf8.encode t = e.1) ∧ e.2.HasTextNames) : (directory entries).HasTextNames :=
  forall_directory (fun e he => (hentries e he).1) fun e he => (hentries e he).2

theorem hasTextNames_of_not_isDirectory (h : n.isDirectory = false) : n.HasTextNames :=
  forall_directory_of_not_isDirectory h

theorem HasTextNames.exists_texts (hn : n.HasTextNames) (h : n.get? l = some c) :
    ∃ ts : List Text, ts.map Utf8.encode = l :=
  (Set.ext_iff.mp (Set.range_list_map Utf8.encode) l).mpr (forall_mem_of_get? hn h)

end Node

open Node

variable {n c : Node} {l : Location}

theorem Location.path_eq_intercalate (l : Location) : l.path = [slash].intercalate l := by
  cases l with
  | nil => rfl
  | cons name l => exact append_flatMap_eq_intercalate [slash] name l

theorem relativePath_map_encode (ts : List Text) : relativePath (ts.map Utf8.encode) = Text.joinWith ['/'] ts := by
  simp [relativePath, Function.comp_def]

theorem decode_append_slash (before behind : Bytes) :
    Utf8.decode (before ++ slash :: behind) = Utf8.decode before ++ '/' :: Utf8.decode behind :=
  Utf8.decode_append_ascii (by decide) before behind

theorem relativePath_eq_decode (l : Location) : relativePath l = Utf8.decode l.path := by
  rw [relativePath, Text.joinWith_eq_intercalate, Location.path_eq_intercalate]
  induction l with
  | nil => rfl
  | cons name l ih =>
      cases l with
      | nil => rw [List.map_singleton, List.intercalate_singleton, List.intercalate_singleton]
      | cons next l =>
          rw [List.map_cons] at ih ⊢
          rw [List.map_cons, List.intercalate_cons_cons, List.intercalate_cons_cons, ih, List.append_assoc,
            List.append_assoc]
          exact (decode_append_slash name _).symm

/-- A text is the path of the location that its components name. -/
theorem relativePath_segments (p : Text) : relativePath (segments slash (Utf8.encode p)) = p := by
  rw [relativePath_eq_decode, Location.path_eq_intercalate, segments_eq_splitOn, List.intercalate_splitOn,
    Utf8.decode_encode]

theorem encode_joinWith (ts : List Text) :
    Utf8.encode (Text.joinWith ['/'] ts) = Location.path (ts.map Utf8.encode) := by
  cases ts with
  | nil => rfl
  | cons t ts =>
      have hflat : Utf8.encode (ts.flatMap (['/'] ++ ·)) = (ts.map Utf8.encode).flatMap (slash :: ·) := by
        induction ts with
        | nil => rfl
        | cons s ts ih =>
            rw [List.flatMap_cons, Utf8.encode_append, ih, Utf8.encode_append]
            rfl
      rw [Text.joinWith, Utf8.encode_append, hflat]
      rfl

/-- The path of a file holds the bytes of its location. -/
theorem encode_relativePath (hn : n.HasTextNames) (h : n.get? l = some c) : Utf8.encode (relativePath l) = l.path := by
  obtain ⟨ts, rfl⟩ := hn.exists_texts h
  rw [relativePath_map_encode, encode_joinWith]

theorem slash_mem_of_mem_decode {bytes : Bytes} (h : '/' ∈ Utf8.decode bytes) : slash ∈ bytes :=
  (Utf8.mem_decode_ascii_iff (b := slash) (by decide)).mp h

/-- Locations have the same path just when their names decode alike, one by one. -/
theorem relativePath_eq_iff {m : Location} (hl0 : l ≠ []) (hm0 : m ≠ []) (hl : ∀ name ∈ l, slash ∉ name)
    (hm : ∀ name ∈ m, slash ∉ name) :
    relativePath l = relativePath m ↔ l.map Utf8.decode = m.map Utf8.decode := by
  have hslash : ∀ {names : Location}, (∀ name ∈ names, slash ∉ name) → ∀ t ∈ names.map Utf8.decode, '/' ∉ t := by
    intro names hnames
    refine List.forall_mem_map.mpr ?_
    intro name hname hin
    exact hnames name hname (slash_mem_of_mem_decode hin)
  constructor
  · exact Text.joinWith_injective (by simpa using hl0) (by simpa using hm0) (hslash hl) (hslash hm)
  · intro h
    rw [relativePath, relativePath, h]

theorem relativePath_injective (hn : n.WellFormed) (ht : n.HasTextNames) {m : Location} {d : Node}
    (hl : n.get? l = some c) (hm : n.get? m = some d) (hl0 : l ≠ []) (hm0 : m ≠ [])
    (h : relativePath l = relativePath m) : l = m := by
  have hdecode := (relativePath_eq_iff hl0 hm0 (fun name hname => (hn.isName hl name hname).no_slash)
    fun name hname => (hn.isName hm name hname).no_slash).mp h
  obtain ⟨ts, rfl⟩ := ht.exists_texts hl
  obtain ⟨us, rfl⟩ := ht.exists_texts hm
  have hts : ts = us := by simpa [Function.comp_def] using hdecode
  rw [hts]

/-! ## Listing -/

/-- Sorted texts are strictly ascending by bytes just when they are different. -/
theorem pairwise_bytesBefore_sort_iff {ts : List Text} : (Text.sort ts).Pairwise Utf8.BytesBefore ↔ ts.Nodup := by
  constructor
  · intro h
    refine (List.mergeSort_perm ts _).nodup_iff.mp (h.imp ?_)
    rintro s t hst rfl
    exact Utf8.bytesBefore_irrefl s hst
  · intro h
    exact (Text.pairwise_sort h).imp Utf8.bytesBefore_of_lex

namespace FileSystem

variable {fs : FileSystem} {root : Bytes}

theorem listFiles_eq (hroot : root ≠ standardInput) (h : fs.node root = .ok n) :
    fs.listFiles root = Text.sort (n.files.map relativePath) := by
  rw [listFiles, if_neg hroot, h]

/-- Where the paths of files come in order, they are listed as they come. -/
theorem listFiles_of_pairwise (hroot : root ≠ standardInput) (h : fs.node root = .ok n)
    (hsorted : (n.files.map relativePath).Pairwise fun p q => comesBefore Char.toNat p q = true) :
    fs.listFiles root = n.files.map relativePath := by
  rw [listFiles_eq hroot h]
  exact List.mergeSort_of_pairwise hsorted

/-- What is listed are the paths of the files that locations lead to. -/
theorem mem_listFiles_iff (hn : n.WellFormed) (hroot : root ≠ standardInput) (h : fs.node root = .ok n) {p : Text} :
    p ∈ fs.listFiles root ↔
      ∃ (l : Location) (content : Bytes), l ≠ [] ∧ n.get? l = some (.file content) ∧ relativePath l = p := by
  rw [listFiles_eq hroot h, Text.mem_sort, List.mem_map]
  constructor
  · rintro ⟨l, hl, rfl⟩
    obtain ⟨hl0, content, hget⟩ := (mem_files_iff hn).mp hl
    exact ⟨l, content, hl0, hget, rfl⟩
  · rintro ⟨l, content, hl0, hget, rfl⟩
    exact ⟨l, (mem_files_iff hn).mpr ⟨hl0, content, hget⟩, rfl⟩

/-- The paths that are listed come in the order of their bytes, each once. -/
theorem pairwise_listFiles (hn : n.WellFormed) (ht : n.HasTextNames) (hroot : root ≠ standardInput)
    (h : fs.node root = .ok n) : (fs.listFiles root).Pairwise Utf8.BytesBefore := by
  rw [listFiles_eq hroot h, pairwise_bytesBefore_sort_iff]
  refine (files_nodup n hn).map_on ?_
  intro l hl m hm heq
  obtain ⟨hl0, _, hlget⟩ := (mem_files_iff hn).mp hl
  obtain ⟨hm0, _, hmget⟩ := (mem_files_iff hn).mp hm
  exact relativePath_injective hn ht hlget hmget hl0 hm0 heq

end FileSystem
end MarkerAudit
