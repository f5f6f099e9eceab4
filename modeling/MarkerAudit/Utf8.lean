import MarkerAudit.Text

/-!
# UTF-8

Encoding, and decoding that never fails: what is not UTF-8 becomes U+FFFD, one for each longest start of a
well-formed sequence and one for each byte that starts none.
-/

namespace MarkerAudit.Utf8

/-- The bytes of a text. -/
def encode (t : Text) : Bytes :=
  t.flatMap String.utf8EncodeChar

/-- The number of bytes of a text. -/
def size (t : Text) : Nat :=
  total (t.map Char.utf8Size)

/-- What stands for bytes that are no character. -/
def replacement : Char := '\uFFFD'

/-- A sequence that has begun: its value so far, how many bytes are missing, and which bytes may be next. -/
structure Pending where
  value : Nat
  missing : Nat
  least : UInt8
  most : UInt8
deriving DecidableEq, Repr

/-- A decoder: the characters so far, last first, and the sequence that is open. -/
structure Decoder where
  decoded : Text
  pending : Option Pending
deriving DecidableEq, Repr

namespace Decoder

/-- The decoder before the first byte. -/
def start : Decoder := ⟨[], none⟩

/-- The sequence that a byte above 127 begins. The second byte is bounded so that no character has two
encodings and no surrogate and nothing above U+10FFFF has one. -/
def lead? (b : UInt8) : Option Pending :=
  if b < 0xC2 then none
  else if b < 0xE0 then some ⟨b.toNat - 0xC0, 1, 0x80, 0xBF⟩
  else if b < 0xF0 then
    some ⟨b.toNat - 0xE0, 2, if b = 0xE0 then 0xA0 else 0x80, if b = 0xED then 0x9F else 0xBF⟩
  else if b < 0xF5 then
    some ⟨b.toNat - 0xF0, 3, if b = 0xF0 then 0x90 else 0x80, if b = 0xF4 then 0x8F else 0xBF⟩
  else none

/-- Reads a byte with no sequence open. -/
def begin (decoded : Text) (b : UInt8) : Decoder :=
  if b < 0x80 then ⟨Char.ofNat b.toNat :: decoded, none⟩
  else match lead? b with
    | some p => ⟨decoded, some p⟩
    | none => ⟨replacement :: decoded, none⟩

/-- Reads a byte. A byte that cannot continue the open sequence ends it and is read anew. -/
def push (d : Decoder) (b : UInt8) : Decoder :=
  match d.pending with
  | none => begin d.decoded b
  | some p =>
    if p.least ≤ b ∧ b ≤ p.most then
      let value := 64 * p.value + (b.toNat - 0x80)
      if p.missing ≤ 1 then ⟨Char.ofNat value :: d.decoded, none⟩
      else ⟨d.decoded, some ⟨value, p.missing - 1, 0x80, 0xBF⟩⟩
    else begin (replacement :: d.decoded) b

/-- The text, once no byte is left. -/
def finish (d : Decoder) : Text :=
  (if d.pending.isSome then replacement :: d.decoded else d.decoded).reverse

end Decoder

/-- The text of any bytes. -/
def decode (bytes : Bytes) : Text :=
  (bytes.foldl Decoder.push .start).finish

/-- The text of well-formed bytes: of those that encoding it gives back. -/
def decode? (bytes : Bytes) : Option Text :=
  let t := decode bytes
  if encode t = bytes then some t else none

end MarkerAudit.Utf8
