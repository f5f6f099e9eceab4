import MarkerAudit.Ascii
import MarkerAudit.Repository.Sha1

/-!
# Index files

What a repository tracks. An index file is a header, entries in order, extensions that may be skipped, and a
digest of all that.
-/

namespace MarkerAudit

open Ascii

/-- What an entry of an index tracks. -/
inductive EntryKind
  | file
  | executable
  | symlink
  | submodule
deriving DecidableEq, Repr

/-- The mode that an index file holds for a kind. -/
def EntryKind.mode : EntryKind → Nat
  | .file => 0o100644
  | .executable => 0o100755
  | .symlink => 0o120000
  | .submodule => 0o160000

/-- The kind that a mode stands for; other modes stand for files. -/
def EntryKind.ofMode (mode : Nat) : EntryKind :=
  ([.executable, .symlink, .submodule].find? fun (k : EntryKind) => k.mode = mode).getD .file

/-- A tracked path. Stage 0 is the settled one; the others are the sides of a merge that is not finished. -/
structure IndexEntry where
  path : Bytes
  kind : EntryKind := .file
  stage : Nat := 0
  assumeUnchanged : Bool := false
deriving DecidableEq, Repr

/-- The entries of an index, in order. -/
abbrev Index := List IndexEntry

namespace Index

/-- Whether an entry comes before another or is at the same place: by path, then by stage. -/
def entryLe (e f : IndexEntry) : Bool :=
  if e.path = f.path then e.stage ≤ f.stage else comesBefore UInt8.toNat e.path f.path

/-- The entries in order. -/
def ofEntries (es : List IndexEntry) : Index := es.mergeSort entryLe

/-- The paths of the entries, in any stage. -/
def paths (ix : Index) : List Bytes := ix.map IndexEntry.path

/-! ## Writing -/

/-- The bytes that an index file starts with. -/
def signature : Bytes := "DIRC".toUTF8.toList

/-- The flags of an entry: what is assumed, the stage, and the length of the path as far as it fits. -/
def flags (e : IndexEntry) : Nat :=
  (if e.assumeUnchanged then 0x8000 else 0) + 0x1000 * e.stage + min e.path.length 0xFFF

/-- Zeros that fill what has `length` bytes up to a multiple of eight; there is at least one. -/
def padding (length : Nat) : Bytes := List.replicate (8 - length % 8) 0

/-- An entry as it is kept. Nothing is known about times, owners and contents. -/
def encodeEntry (e : IndexEntry) : Bytes :=
  List.replicate 24 0 ++ bigEndian 4 e.kind.mode ++ List.replicate 32 0 ++ bigEndian 2 (flags e) ++ e.path
    ++ padding (62 + e.path.length)

/-- The index as a file. -/
def encode (ix : Index) : Bytes :=
  let content := signature ++ bigEndian 4 2 ++ bigEndian 4 ix.length ++ ix.flatMap encodeEntry
  content ++ Sha1.digest content

/-! ## Reading -/

/-- A number of variable width, at most `fuel` bytes long: seven bits a byte, and each further byte adds one
to what is there. -/
def readOffset : (fuel : Nat) → (soFar : Nat) → Bytes → Option (Nat × Bytes)
  | 0, _, _ => none
  | _ + 1, _, [] => none
  | fuel + 1, soFar, b :: rest =>
    let n := 128 * soFar + b.toNat % 128
    if b < 128 then some (n, rest) else readOffset fuel (n + 1) rest

/-- The path of an entry and the bytes behind the entry. From version 4 on a path is told by what it shares
with the path before. -/
def readPath (version : Nat) (before : Bytes) (headLength nameLength : Nat) (t : Bytes) :
    Option (Bytes × Bytes) :=
  if version < 4 then
    let length := if nameLength = 0xFFF then (t.takeWhile (· ≠ 0)).length else nameLength
    let size := length + (padding (headLength + length)).length
    if t.length < size then none else some ((t.take length).takeWhile (· ≠ 0), t.drop size)
  else
    match readOffset 10 0 t with
    | none => none
    | some (cut, rest) =>
      let suffix := rest.takeWhile (· ≠ 0)
      if before.length < cut || rest.length ≤ suffix.length then none
      else some (before.take (before.length - cut) ++ suffix, rest.drop (suffix.length + 1))

/-- Reads an entry. -/
def readEntry (version : Nat) (before t : Bytes) : Option (IndexEntry × Bytes) :=
  if t.length < 62 then none
  else
    let flags := ofBigEndian ((t.drop 60).take 2)
    let headLength := if flags / 0x4000 % 2 = 1 then 64 else 62
    (readPath version before headLength (flags % 0x1000) (t.drop headLength)).map fun (path, rest) =>
      ({ path
         kind := .ofMode (ofBigEndian ((t.drop 24).take 4))
         stage := flags / 0x1000 % 4
         assumeUnchanged := flags / 0x8000 = 1 }, rest)

/-- Reads a number of entries. -/
def readEntries (version : Nat) : (count : Nat) → (before : Bytes) → Bytes →
    Option (List IndexEntry × Bytes)
  | 0, _, t => some ([], t)
  | count + 1, before, t =>
    match readEntry version before t with
    | none => none
    | some (e, rest) =>
      (readEntries version count e.path rest).map fun (es, rest) => (e :: es, rest)

/-- Whether the bytes are extensions that may be skipped, which have names that start with a capital. -/
def areExtensions : (fuel : Nat) → Bytes → Bool
  | 0, _ => false
  | fuel + 1, t =>
    match t with
    | [] => true
    | b :: _ =>
      let size := ofBigEndian ((t.drop 4).take 4)
      65 ≤ b && b ≤ 90 && 8 + size ≤ t.length && areExtensions fuel (t.drop (8 + size))

/-- The index that a file holds. -/
def decode? (file : Bytes) : Option Index :=
  let content := file.take (file.length - Sha1.size)
  let trailer := file.drop content.length
  let version := ofBigEndian ((content.drop 4).take 4)
  let count := ofBigEndian ((content.drop 8).take 4)
  if content.length < 12 || content.take 4 ≠ signature || version < 2 || 4 < version then none
  else if content.length < 62 * count then none
  else match readEntries version count [] (content.drop 12) with
    | none => none
    | some (es, rest) =>
      if areExtensions (rest.length + 1) rest
        && (trailer = Sha1.digest content || trailer = List.replicate Sha1.size 0)
      then some es
      else none

/-! ## Changes -/

/-- Whether one of two paths is a directory on the way to the other. -/
def clash (p q : Bytes) : Bool := (p ++ [slash]).isPrefixOf q || (q ++ [slash]).isPrefixOf p

/-- The index with an entry put in. A settled entry takes the place of all stages of its path, another that of
its own stage; entries of that stage that would be files and directories at once go. -/
def insert (ix : Index) (e : IndexEntry) : Index :=
  let kept := ix.filter fun f =>
    !(f.path = e.path && (e.stage = 0 || f.stage = e.stage)) && !(f.stage = e.stage && clash f.path e.path)
  ofEntries (e :: kept)

/-- The index without a path. -/
def erase (ix : Index) (path : Bytes) : Index := ix.filter fun f => f.path ≠ path

end Index
end MarkerAudit
