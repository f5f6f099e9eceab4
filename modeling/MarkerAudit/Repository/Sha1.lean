import MarkerAudit.Text

/-!
# SHA-1

The digest that ends an index file. A message is padded to blocks of sixty-four bytes, and each block is mixed
into five words.
-/

namespace MarkerAudit

/-- A number in `width` bytes, the most significant first. -/
def bigEndian : (width : Nat) → Nat → Bytes
  | 0, _ => []
  | width + 1, n => bigEndian width (n / 256) ++ [(n % 256).toUInt8]

/-- The number that bytes stand for, the most significant first. -/
def ofBigEndian (bytes : Bytes) : Nat :=
  bytes.foldl (fun n b => 256 * n + b.toNat) 0

namespace Sha1

/-- The words that blocks are mixed into. -/
structure State where
  a : UInt32
  b : UInt32
  c : UInt32
  d : UInt32
  e : UInt32
deriving DecidableEq, Repr

/-- The words before the first block. -/
def start : State := ⟨0x67452301, 0xEFCDAB89, 0x98BADCFE, 0x10325476, 0xC3D2E1F0⟩

/-- The message with a one bit, zeros, and its length in bits behind it. -/
def pad (message : Bytes) : Bytes :=
  message ++ 0x80 :: List.replicate ((119 - message.length % 64) % 64) 0
    ++ bigEndian 8 (8 * message.length)

/-- The words of whole groups of four bytes. -/
def words : Bytes → List UInt32
  | p :: q :: r :: s :: rest => (ofBigEndian [p, q, r, s]).toUInt32 :: words rest
  | _ => []

/-- A word with its bits moved around to the left. -/
def rotate (w : UInt32) (n : UInt32) : UInt32 := w <<< n ||| w >>> (32 - n)

/-- The eighty words that a block of sixteen is stretched to. -/
def stretch (block : List UInt32) : List UInt32 :=
  ((List.range 64).foldl (fun latest _ =>
    rotate (latest.getD 2 0 ^^^ latest.getD 7 0 ^^^ latest.getD 13 0 ^^^ latest.getD 15 0) 1 :: latest)
    block.reverse).reverse

/-- One round with a word; `t` counts the rounds of a block. -/
def round (s : State) (w : UInt32) (t : Nat) : State :=
  let (f, k) : UInt32 × UInt32 :=
    if t < 20 then (s.b &&& s.c ||| ~~~s.b &&& s.d, 0x5A827999)
    else if t < 40 then (s.b ^^^ s.c ^^^ s.d, 0x6ED9EBA1)
    else if t < 60 then (s.b &&& s.c ||| s.b &&& s.d ||| s.c &&& s.d, 0x8F1BBCDC)
    else (s.b ^^^ s.c ^^^ s.d, 0xCA62C1D6)
  ⟨rotate s.a 5 + f + s.e + k + w, s.a, rotate s.b 30, s.c, s.d⟩

/-- Mixes a block in. -/
def mix (s : State) (block : List UInt32) : State :=
  let m := (stretch block).zipIdx.foldl (fun s (w, t) => round s w t) s
  ⟨s.a + m.a, s.b + m.b, s.c + m.c, s.d + m.d, s.e + m.e⟩

/-- Mixes blocks of sixteen words in, at most `count` of them. -/
def mixAll : (count : Nat) → State → List UInt32 → State
  | 0, s, _ => s
  | count + 1, s, ws => if ws.isEmpty then s else mixAll count (mix s (ws.take 16)) (ws.drop 16)

/-- How many bytes a digest has. -/
def size : Nat := 20

/-- The digest of a message. -/
def digest (message : Bytes) : Bytes :=
  let ws := words (pad message)
  let s := mixAll ws.length start ws
  [s.a, s.b, s.c, s.d, s.e].flatMap fun w => bigEndian 4 w.toNat

end Sha1
end MarkerAudit
