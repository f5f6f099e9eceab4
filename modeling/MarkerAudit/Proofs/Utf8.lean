import Mathlib.Data.List.Lex
import MarkerAudit.Utf8
import MarkerAudit.Proofs.Text

/-!
# Properties of UTF-8

Decoding is read as a function of the open sequence, so that what a byte adds to the text is one equation. From it
follow that decoding starts anew at every byte that continues no sequence, that it gives back every encoded text,
and that every character of a decoded text is U+FFFD or stands for its own encoding.
-/

namespace MarkerAudit.Utf8

open String (utf8EncodeChar)

/-! ## Encoded characters -/

/-- A byte that can only continue a sequence. -/
def IsContinuation (b : UInt8) : Prop := 0x80 ≤ b ∧ b ≤ 0xBF

instance (b : UInt8) : Decidable (IsContinuation b) := inferInstanceAs (Decidable (_ ∧ _))

theorem isContinuation_iff {b : UInt8} : IsContinuation b ↔ 128 ≤ b.toNat ∧ b.toNat ≤ 191 := by
  simp [IsContinuation, UInt8.le_iff_toNat_le]

theorem toNat_valid (c : Char) : c.toNat < 0xD800 ∨ 0xDFFF < c.toNat ∧ c.toNat < 0x110000 := c.valid

theorem toNat_ofNat_of_lt {n : Nat} (h : n < 256) : (UInt8.ofNat n).toNat = n := UInt8.toNat_ofNat_of_lt' h

theorem toNat_charOfNat {n : Nat} (h : n < 0xD800 ∨ 0xDFFF < n ∧ n < 0x110000) : (Char.ofNat n).toNat = n := by
  have hv : n.isValidChar := h
  rw [Char.ofNat, dif_pos hv]
  rfl

/-- A character has from one to four bytes, by its code point. -/
theorem encodeChar_cases (c : Char) :
    (c.toNat < 0x80 ∧ utf8EncodeChar c = [.ofNat c.toNat]) ∨
    (0x80 ≤ c.toNat ∧ c.toNat < 0x800 ∧
      utf8EncodeChar c = [.ofNat (c.toNat / 64 + 0xC0), .ofNat (c.toNat % 64 + 0x80)]) ∨
    (0x800 ≤ c.toNat ∧ c.toNat < 0x10000 ∧
      utf8EncodeChar c = [.ofNat (c.toNat / 4096 + 0xE0), .ofNat (c.toNat / 64 % 64 + 0x80),
        .ofNat (c.toNat % 64 + 0x80)]) ∨
    (0x10000 ≤ c.toNat ∧ c.toNat < 0x110000 ∧
      utf8EncodeChar c = [.ofNat (c.toNat / 262144 + 0xF0), .ofNat (c.toNat / 4096 % 64 + 0x80),
        .ofNat (c.toNat / 64 % 64 + 0x80), .ofNat (c.toNat % 64 + 0x80)]) := by
  have hv := toNat_valid c
  have he : c.val.toNat = c.toNat := rfl
  simp only [utf8EncodeChar, he]
  rcases Nat.lt_or_ge c.toNat 0x80 with h1 | h1
  · left
    exact ⟨h1, if_pos (by omega)⟩
  right
  rw [if_neg (by omega)]
  rcases Nat.lt_or_ge c.toNat 0x800 with h2 | h2
  · left
    rw [if_pos (by omega), Nat.mod_eq_of_lt (by omega)]
    exact ⟨h1, h2, rfl⟩
  right
  rw [if_neg (by omega)]
  rcases Nat.lt_or_ge c.toNat 0x10000 with h3 | h3
  · left
    rw [if_pos (by omega), Nat.mod_eq_of_lt (a := c.toNat / 4096) (by omega)]
    exact ⟨h2, h3, rfl⟩
  right
  rw [if_neg (by omega), Nat.mod_eq_of_lt (a := c.toNat / 262144) (by omega)]
  exact ⟨h3, by omega, rfl⟩

theorem not_isContinuation_ascii {b : UInt8} (hb : b < 0x80) : ¬ IsContinuation b :=
  fun h => absurd (UInt8.lt_of_lt_of_le hb h.1) (UInt8.lt_irrefl b)

theorem toNat_charOfNat_ascii {b : UInt8} (hb : b < 0x80) : (Char.ofNat b.toNat).toNat = b.toNat := by
  have hlt : b.toNat < 128 := UInt8.lt_iff_toNat_lt.mp hb
  exact toNat_charOfNat (.inl (by omega))

theorem encodeChar_ascii {b : UInt8} (hb : b < 0x80) : utf8EncodeChar (Char.ofNat b.toNat) = [b] := by
  have hlt : b.toNat < 128 := UInt8.lt_iff_toNat_lt.mp hb
  have hchar := toNat_charOfNat_ascii hb
  rcases encodeChar_cases (Char.ofNat b.toNat) with ⟨_, he⟩ | ⟨_, _⟩ | ⟨_, _⟩ | ⟨_, _⟩ <;> try omega
  rw [he, hchar, UInt8.ofNat_toNat]

theorem isContinuation_ofNat (n : Nat) : IsContinuation (.ofNat (n % 64 + 0x80)) := by
  rw [isContinuation_iff, toNat_ofNat_of_lt (by omega)]
  omega

/-- Only the first byte of a character is no continuation. -/
theorem encodeChar_eq_cons (c : Char) :
    ∃ b t, utf8EncodeChar c = b :: t ∧ ¬ IsContinuation b ∧ ∀ x ∈ t, IsContinuation x := by
  rcases encodeChar_cases c with ⟨h, he⟩ | ⟨h, h', he⟩ | ⟨h, h', he⟩ | ⟨h, h', he⟩
  all_goals
    refine ⟨_, _, he, ?_, by simp only [List.mem_cons, List.not_mem_nil, or_false, false_imp_iff, implies_true,
      forall_eq_or_imp, forall_eq, isContinuation_ofNat, and_self]⟩
    rw [isContinuation_iff, toNat_ofNat_of_lt (by omega)]
    omega

@[simp] theorem encode_nil : encode [] = [] := rfl

@[simp] theorem encode_cons (c : Char) (t : Text) : encode (c :: t) = utf8EncodeChar c ++ encode t := rfl

@[simp] theorem encode_append (s t : Text) : encode (s ++ t) = encode s ++ encode t := by
  simp [encode]

theorem size_replicate (n : Nat) (c : Char) : size (List.replicate n c) = n * c.utf8Size := by
  induction n with
  | zero => exact (Nat.zero_mul _).symm
  | succ n ih =>
      have hcons : size (List.replicate (n + 1) c) = c.utf8Size + size (List.replicate n c) := rfl
      rw [hcons, ih, Nat.succ_mul, Nat.add_comm]

theorem length_encode (t : Text) : (encode t).length = size t := by
  induction t with
  | nil => rfl
  | cons c t ih => simpa [size, total, String.length_utf8EncodeChar] using ih

theorem encode_eq_cons {t : Text} (ht : t ≠ []) : ∃ b bs, encode t = b :: bs ∧ ¬ IsContinuation b := by
  cases t with
  | nil => exact absurd rfl ht
  | cons c t =>
      obtain ⟨b, bs, he, hb, _⟩ := encodeChar_eq_cons c
      exact ⟨b, bs ++ encode t, by rw [encode_cons, he, List.cons_append], hb⟩

/-- Where a byte of an encoded text is no continuation, a character begins. -/
theorem boundary_of_drop_encode {t : Text} {o : Nat} {b : UInt8} {bs : Bytes}
    (h : (encode t).drop o = b :: bs) (hb : ¬ IsContinuation b) : ∃ s r, t = s ++ r ∧ (encode s).length = o := by
  induction t generalizing o with
  | nil => simp at h
  | cons c t ih =>
      obtain ⟨a, as, he, _, has⟩ := encodeChar_eq_cons c
      rcases Nat.lt_or_ge o (utf8EncodeChar c).length with hlt | hge
      · cases o with
        | zero => exact ⟨[], c :: t, rfl, rfl⟩
        | succ o =>
            rw [encode_cons, List.drop_append_of_le_length (by omega), he, List.drop_succ_cons] at h
            have hmem : b ∈ as := by
              cases hd : as.drop o with
              | nil =>
                  rw [he, List.length_cons] at hlt
                  have := List.drop_eq_nil_iff.mp hd
                  omega
              | cons x xs =>
                  rw [hd, List.cons_append, List.cons.injEq] at h
                  rw [← h.1]
                  exact List.mem_of_mem_drop (hd ▸ List.mem_cons_self)
            exact absurd (has b hmem) hb
      · rw [encode_cons, List.drop_append, List.drop_eq_nil_of_le hge, List.nil_append] at h
        obtain ⟨s, r, rfl, hs⟩ := ih h
        exact ⟨c :: s, r, rfl, by rw [encode_cons, List.length_append]; omega⟩

/-! ## Decoding as recursion on the bytes -/

/-- The text of bytes behind an open sequence. -/
def decodeFrom (p : Option Pending) (bytes : Bytes) : Text := (bytes.foldl Decoder.push ⟨[], p⟩).finish

theorem decode_eq (bytes : Bytes) : decode bytes = decodeFrom none bytes := rfl

theorem push_decoded (acc : Text) (p : Option Pending) (b : UInt8) :
    Decoder.push ⟨acc, p⟩ b =
      ⟨(Decoder.push ⟨[], p⟩ b).decoded ++ acc, (Decoder.push ⟨[], p⟩ b).pending⟩ := by
  unfold Decoder.push Decoder.begin
  cases p <;> simp only <;> (repeat' split) <;> rfl

theorem foldl_push_finish (acc : Text) (p : Option Pending) (bytes : Bytes) :
    (bytes.foldl Decoder.push ⟨acc, p⟩).finish = acc.reverse ++ decodeFrom p bytes := by
  induction bytes generalizing acc p with
  | nil => cases p <;> simp [decodeFrom, Decoder.finish]
  | cons b bs ih =>
      have hstart : decodeFrom p (b :: bs) =
          (Decoder.push ⟨[], p⟩ b).decoded.reverse ++ decodeFrom (Decoder.push ⟨[], p⟩ b).pending bs := ih _ _
      rw [List.foldl_cons, push_decoded, ih, hstart]
      simp

/-- A byte adds characters that depend on the open sequence alone. -/
theorem decodeFrom_cons (p : Option Pending) (b : UInt8) (bs : Bytes) :
    decodeFrom p (b :: bs) =
      (Decoder.push ⟨[], p⟩ b).decoded.reverse ++ decodeFrom (Decoder.push ⟨[], p⟩ b).pending bs :=
  foldl_push_finish (Decoder.push ⟨[], p⟩ b).decoded (Decoder.push ⟨[], p⟩ b).pending bs

@[simp] theorem decode_nil : decode [] = [] := rfl

theorem decodeFrom_some_nil (q : Pending) : decodeFrom (some q) [] = [replacement] := rfl

theorem decode_cons_ascii {b : UInt8} (h : b < 0x80) (bs : Bytes) :
    decode (b :: bs) = Char.ofNat b.toNat :: decode bs := by
  simp [decode_eq, decodeFrom_cons, Decoder.push, Decoder.begin, h]

theorem decode_cons_lead {b : UInt8} {q : Pending} (h : ¬ b < 0x80) (hq : Decoder.lead? b = some q) (bs : Bytes) :
    decode (b :: bs) = decodeFrom (some q) bs := by
  simp [decode_eq, decodeFrom_cons, Decoder.push, Decoder.begin, h, hq]

theorem decode_cons_invalid {b : UInt8} (h : ¬ b < 0x80) (hn : Decoder.lead? b = none) (bs : Bytes) :
    decode (b :: bs) = replacement :: decode bs := by
  simp [decode_eq, decodeFrom_cons, Decoder.push, Decoder.begin, h, hn]

theorem decodeFrom_cons_other {q : Pending} {b : UInt8} (h : ¬ (q.least ≤ b ∧ b ≤ q.most)) (bs : Bytes) :
    decodeFrom (some q) (b :: bs) = replacement :: decode (b :: bs) := by
  rw [decodeFrom, List.foldl_cons]
  simp only [Decoder.push, h, if_false]
  rw [show Decoder.begin [replacement] b = Decoder.push ⟨[replacement], none⟩ b from rfl, ← List.foldl_cons,
    foldl_push_finish]
  rfl

theorem decodeFrom_cons_last {q : Pending} {b : UInt8} (h : q.least ≤ b ∧ b ≤ q.most) (hm : q.missing ≤ 1)
    (bs : Bytes) :
    decodeFrom (some q) (b :: bs) = Char.ofNat (64 * q.value + (b.toNat - 0x80)) :: decode bs := by
  simp [decode_eq, decodeFrom_cons, Decoder.push, h, hm]

theorem decodeFrom_cons_more {q : Pending} {b : UInt8} (h : q.least ≤ b ∧ b ≤ q.most) (hm : ¬ q.missing ≤ 1)
    (bs : Bytes) :
    decodeFrom (some q) (b :: bs) =
      decodeFrom (some ⟨64 * q.value + (b.toNat - 0x80), q.missing - 1, 0x80, 0xBF⟩) bs := by
  simp [decodeFrom_cons, Decoder.push, h, hm]

/-! ## Resynchronisation -/

/-- Only continuations go on with the open sequence, if there is one. -/
def Bounded (p : Option Pending) : Prop :=
  ∀ q, p = some q → ∀ b, q.least ≤ b → b ≤ q.most → IsContinuation b

theorem Bounded.none : Bounded none := by
  intro q h
  cases h

theorem lead?_eq_some_iff {b : UInt8} {q : Pending} :
    Decoder.lead? b = some q ↔
    (0xC2 ≤ b.toNat ∧ b.toNat < 0xE0 ∧ q = ⟨b.toNat - 0xC0, 1, 0x80, 0xBF⟩) ∨
    (0xE0 ≤ b.toNat ∧ b.toNat < 0xF0 ∧
      q = ⟨b.toNat - 0xE0, 2, if b = 0xE0 then 0xA0 else 0x80, if b = 0xED then 0x9F else 0xBF⟩) ∨
    (0xF0 ≤ b.toNat ∧ b.toNat < 0xF5 ∧
      q = ⟨b.toNat - 0xF0, 3, if b = 0xF0 then 0x90 else 0x80, if b = 0xF4 then 0x8F else 0xBF⟩) := by
  simp only [Decoder.lead?, UInt8.lt_iff_toNat_lt, UInt8.reduceToNat]
  constructor
  · intro h
    by_cases h1 : b.toNat < 0xC2
    · rw [if_pos h1] at h
      exact absurd h (by simp)
    rw [if_neg h1] at h
    by_cases h2 : b.toNat < 0xE0
    · rw [if_pos h2] at h
      exact .inl ⟨by omega, h2, (Option.some.inj h).symm⟩
    rw [if_neg h2] at h
    by_cases h3 : b.toNat < 0xF0
    · rw [if_pos h3] at h
      exact .inr (.inl ⟨by omega, h3, (Option.some.inj h).symm⟩)
    rw [if_neg h3] at h
    by_cases h4 : b.toNat < 0xF5
    · rw [if_pos h4] at h
      exact .inr (.inr ⟨by omega, h4, (Option.some.inj h).symm⟩)
    rw [if_neg h4] at h
    exact absurd h (by simp)
  · rintro (⟨h, h', rfl⟩ | ⟨h, h', rfl⟩ | ⟨h, h', rfl⟩)
    · rw [if_neg (by omega), if_pos h']
    · rw [if_neg (by omega), if_neg (by omega), if_pos h']
    · rw [if_neg (by omega), if_neg (by omega), if_neg (by omega), if_pos h']

theorem lead?_bounded (b : UInt8) : Bounded (Decoder.lead? b) := by
  intro q hq x hlo hhi
  rw [UInt8.le_iff_toNat_le] at hlo hhi
  rw [isContinuation_iff]
  rcases lead?_eq_some_iff.mp hq with ⟨_, _, rfl⟩ | ⟨_, _, rfl⟩ | ⟨_, _, rfl⟩
  · exact ⟨hlo, hhi⟩
  · dsimp only at hlo hhi
    split at hlo <;> split at hhi <;> simp only [UInt8.reduceToNat] at hlo hhi <;> omega
  · dsimp only at hlo hhi
    split at hlo <;> split at hhi <;> simp only [UInt8.reduceToNat] at hlo hhi <;> omega

theorem push_bounded {p : Option Pending} (h : Bounded p) (b : UInt8) : Bounded (Decoder.push ⟨[], p⟩ b).pending := by
  have hbegin : ∀ acc, Bounded (Decoder.begin acc b).pending := by
    intro acc
    unfold Decoder.begin
    split
    · exact .none
    · split
      · rename_i q hq
        exact hq ▸ lead?_bounded b
      · exact .none
  cases p with
  | none => exact hbegin []
  | some q =>
      simp only [Decoder.push]
      split
      · split
        · exact .none
        · intro q' hq' x hlo hhi
          rw [← Option.some.inj hq'] at hlo hhi
          exact ⟨hlo, hhi⟩
      · exact hbegin _

theorem decodeFrom_append {p : Option Pending} (hp : Bounded p) (as : Bytes) {b : UInt8} (hb : ¬ IsContinuation b)
    (bs : Bytes) : decodeFrom p (as ++ b :: bs) = decodeFrom p as ++ decode (b :: bs) := by
  -- whatever sequence `as` leaves open is bounded, so that `b` ends it
  induction as generalizing p with
  | nil =>
      cases p with
      | none => rw [← decode_eq, ← decode_eq, decode_nil, List.nil_append, List.nil_append]
      | some q =>
          rw [List.nil_append, decodeFrom_some_nil, decodeFrom_cons_other, List.singleton_append]
          · rintro ⟨hlo, hhi⟩
            exact hb (hp q rfl b hlo hhi)
  | cons a as ih =>
      rw [List.cons_append, decodeFrom_cons, decodeFrom_cons, ih (push_bounded hp a), List.append_assoc]

/-- Decoding starts anew at every byte that is no continuation, whatever stands before it. -/
theorem decode_append (as : Bytes) {b : UInt8} (hb : ¬ IsContinuation b) (bs : Bytes) :
    decode (as ++ b :: bs) = decode as ++ decode (b :: bs) :=
  decodeFrom_append .none as hb bs

/-! ## Characters and their encodings -/

/-- The open sequence behind one more byte. -/
def Pending.next (q : Pending) (b : UInt8) : Pending :=
  ⟨64 * q.value + (b.toNat - 0x80), q.missing - 1, 0x80, 0xBF⟩

/-- The bytes complete the open sequence to a character. -/
inductive Pending.Completes : Pending → Bytes → Char → Prop
  | last {q : Pending} {b : UInt8} : q.least ≤ b → b ≤ q.most → q.missing = 1 →
      Completes q [b] (Char.ofNat (q.next b).value)
  | more {q : Pending} {b : UInt8} {t : Bytes} {c : Char} : q.least ≤ b → b ≤ q.most → 1 < q.missing →
      Completes (q.next b) t c → Completes q (b :: t) c

theorem Pending.Completes.last_inv {q : Pending} {t : Bytes} {c : Char} (h : q.Completes t c) (hm : q.missing = 1) :
    ∃ b, t = [b] ∧ q.least ≤ b ∧ b ≤ q.most ∧ c = Char.ofNat (q.next b).value := by
  cases h with
  | last hlo hhi _ => exact ⟨_, rfl, hlo, hhi, rfl⟩
  | more _ _ hgt _ => omega

theorem Pending.Completes.more_inv {q : Pending} {t : Bytes} {c : Char} (h : q.Completes t c) (hm : 1 < q.missing) :
    ∃ b r, t = b :: r ∧ q.least ≤ b ∧ b ≤ q.most ∧ (q.next b).Completes r c := by
  cases h with
  | last _ _ hone => omega
  | more hlo hhi _ hr => exact ⟨_, _, rfl, hlo, hhi, hr⟩

theorem ofNat_eq_of_toNat {n : Nat} {b : UInt8} (h : n = b.toNat) : UInt8.ofNat n = b := by
  rw [h, UInt8.ofNat_toNat]

theorem ite_le_iff {b k lo lo' x : UInt8} (hlo : lo ≤ lo') :
    (if b = k then lo' else lo) ≤ x ↔ lo.toNat ≤ x.toNat ∧ (b.toNat = k.toNat → lo'.toNat ≤ x.toNat) := by
  rw [UInt8.le_iff_toNat_le] at hlo ⊢
  rw [UInt8.toNat_inj]
  split
  · exact ⟨fun h => ⟨by omega, fun _ => h⟩, fun h => h.2 ‹_›⟩
  · exact ⟨fun h => ⟨h, fun hb => absurd hb ‹_›⟩, fun h => h.1⟩

theorem le_ite_iff {b k hi hi' x : UInt8} (hhi : hi' ≤ hi) :
    x ≤ (if b = k then hi' else hi) ↔ x.toNat ≤ hi.toNat ∧ (b.toNat = k.toNat → x.toNat ≤ hi'.toNat) := by
  rw [UInt8.le_iff_toNat_le] at hhi ⊢
  rw [UInt8.toNat_inj]
  split
  · exact ⟨fun h => ⟨by omega, fun _ => h⟩, fun h => h.2 ‹_›⟩
  · exact ⟨fun h => ⟨h, fun hb => absurd hb ‹_›⟩, fun h => h.1⟩

/-- What completes the sequence behind its first byte is the rest of the character's encoding. -/
theorem Pending.Completes.encode {b : UInt8} {q : Pending} {t : Bytes} {c : Char}
    (hq : Decoder.lead? b = some q) (h : q.Completes t c) : utf8EncodeChar c = b :: t := by
  rcases lead?_eq_some_iff.mp hq with ⟨hb, hb', rfl⟩ | ⟨hb, hb', rfl⟩ | ⟨hb, hb', rfl⟩
  · obtain ⟨x, rfl, hlo, hhi, hc⟩ := h.last_inv rfl
    have hx := isContinuation_iff.mp ⟨hlo, hhi⟩
    have hv : c.toNat = 64 * (b.toNat - 192) + (x.toNat - 128) := by
      rw [hc]
      exact toNat_charOfNat (n := 64 * (b.toNat - 192) + (x.toNat - 128)) (by omega)
    rcases encodeChar_cases c with ⟨_, _⟩ | ⟨_, _, he⟩ | ⟨_, _⟩ | ⟨_, _⟩ <;> try omega
    rw [he, ofNat_eq_of_toNat (b := b) (by omega), ofNat_eq_of_toNat (b := x) (by omega)]
  · obtain ⟨x, r, rfl, hlo, hhi, hr⟩ := h.more_inv Nat.one_lt_two
    obtain ⟨y, rfl, hlo', hhi', hc⟩ := hr.last_inv rfl
    have hlo := (ite_le_iff (by decide)).mp hlo
    have hhi := (le_ite_iff (by decide)).mp hhi
    have hy := isContinuation_iff.mp ⟨hlo', hhi'⟩
    simp only [UInt8.reduceToNat] at hlo hhi
    have hv : c.toNat = 64 * (64 * (b.toNat - 224) + (x.toNat - 128)) + (y.toNat - 128) := by
      rw [hc]
      exact toNat_charOfNat (n := 64 * (64 * (b.toNat - 224) + (x.toNat - 128)) + (y.toNat - 128)) (by omega)
    rcases encodeChar_cases c with ⟨_, _⟩ | ⟨_, _, _⟩ | ⟨_, _, he⟩ | ⟨_, _⟩ <;> try omega
    rw [he, ofNat_eq_of_toNat (b := b) (by omega), ofNat_eq_of_toNat (b := x) (by omega),
      ofNat_eq_of_toNat (b := y) (by omega)]
  · obtain ⟨x, r, rfl, hlo, hhi, hr⟩ := h.more_inv (Nat.lt_of_sub_eq_succ rfl)
    obtain ⟨y, r, rfl, hlo', hhi', hr⟩ := hr.more_inv Nat.one_lt_two
    obtain ⟨z, rfl, hlo'', hhi'', hc⟩ := hr.last_inv rfl
    have hlo := (ite_le_iff (by decide)).mp hlo
    have hhi := (le_ite_iff (by decide)).mp hhi
    have hy := isContinuation_iff.mp ⟨hlo', hhi'⟩
    have hz := isContinuation_iff.mp ⟨hlo'', hhi''⟩
    simp only [UInt8.reduceToNat] at hlo hhi
    have hv : c.toNat =
        64 * (64 * (64 * (b.toNat - 240) + (x.toNat - 128)) + (y.toNat - 128)) + (z.toNat - 128) := by
      rw [hc]
      exact toNat_charOfNat
        (n := 64 * (64 * (64 * (b.toNat - 240) + (x.toNat - 128)) + (y.toNat - 128)) + (z.toNat - 128)) (by omega)
    rcases encodeChar_cases c with ⟨_, _⟩ | ⟨_, _, _⟩ | ⟨_, _, _⟩ | ⟨_, _, he⟩ <;> try omega
    rw [he, ofNat_eq_of_toNat (b := b) (by omega), ofNat_eq_of_toNat (b := x) (by omega),
      ofNat_eq_of_toNat (b := y) (by omega), ofNat_eq_of_toNat (b := z) (by omega)]

theorem Pending.Completes.last_of_value {v : Nat} {b : UInt8} {c : Char} (hb : IsContinuation b)
    (hv : 64 * v + (b.toNat - 0x80) = c.toNat) : Completes ⟨v, 1, 0x80, 0xBF⟩ [b] c := by
  rw [← Char.ofNat_toNat c, ← hv]
  exact .last hb.1 hb.2 rfl

/-- The first byte of a character above 127 opens a sequence that the others complete. -/
theorem exists_lead {c : Char} (hc : 0x80 ≤ c.toNat) :
    ∃ b t q, utf8EncodeChar c = b :: t ∧ Decoder.lead? b = some q ∧ q.Completes t c := by
  have hvalid := toNat_valid c
  have hz := toNat_ofNat_of_lt (n := c.toNat % 64 + 128) (by omega)
  have hzc := isContinuation_ofNat c.toNat
  rcases encodeChar_cases c with ⟨_, _⟩ | ⟨h, h', he⟩ | ⟨h, h', he⟩ | ⟨h, h', he⟩
  · omega
  · have hb := toNat_ofNat_of_lt (n := c.toNat / 64 + 192) (by omega)
    refine ⟨_, _, _, he, lead?_eq_some_iff.mpr (.inl ⟨by omega, by omega, rfl⟩), ?_⟩
    refine .last_of_value hzc ?_
    rw [hb, hz]
    omega
  · have hb := toNat_ofNat_of_lt (n := c.toNat / 4096 + 224) (by omega)
    have hx := toNat_ofNat_of_lt (n := c.toNat / 64 % 64 + 128) (by omega)
    refine ⟨_, _, _, he, lead?_eq_some_iff.mpr (.inr (.inl ⟨by omega, by omega, rfl⟩)), ?_⟩
    refine .more ((ite_le_iff (by decide)).mpr ?_) ((le_ite_iff (by decide)).mpr ?_) Nat.one_lt_two ?_
    · simp only [UInt8.reduceToNat]
      omega
    · simp only [UInt8.reduceToNat]
      omega
    · refine .last_of_value hzc ?_
      simp only [hb, hx, hz]
      omega
  · have hb := toNat_ofNat_of_lt (n := c.toNat / 262144 + 240) (by omega)
    have hx := toNat_ofNat_of_lt (n := c.toNat / 4096 % 64 + 128) (by omega)
    have hy := toNat_ofNat_of_lt (n := c.toNat / 64 % 64 + 128) (by omega)
    have hyc := isContinuation_ofNat (c.toNat / 64)
    refine ⟨_, _, _, he, lead?_eq_some_iff.mpr (.inr (.inr ⟨by omega, by omega, rfl⟩)), ?_⟩
    refine .more ((ite_le_iff (by decide)).mpr ?_) ((le_ite_iff (by decide)).mpr ?_)
      (Nat.lt_of_sub_eq_succ rfl) (.more hyc.1 hyc.2 Nat.one_lt_two ?_)
    · simp only [UInt8.reduceToNat]
      omega
    · simp only [UInt8.reduceToNat]
      omega
    · refine .last_of_value hzc ?_
      dsimp only [Pending.next]
      rw [hb, hx, hy, hz]
      omega

theorem Pending.Completes.decodeFrom_append {q : Pending} {t : Bytes} {c : Char} (h : q.Completes t c) (bs : Bytes) :
    decodeFrom (some q) (t ++ bs) = c :: decode bs := by
  induction h with
  | last hlo hhi hm =>
      rw [List.singleton_append]
      exact decodeFrom_cons_last ⟨hlo, hhi⟩ (by omega) bs
  | more hlo hhi hm _ ih =>
      rw [List.cons_append, decodeFrom_cons_more ⟨hlo, hhi⟩ (by omega)]
      exact ih

theorem decode_encodeChar_append (c : Char) (bs : Bytes) : decode (utf8EncodeChar c ++ bs) = c :: decode bs := by
  rcases Nat.lt_or_ge c.toNat 0x80 with hlt | hge
  · rcases encodeChar_cases c with ⟨_, he⟩ | ⟨_, _⟩ | ⟨_, _⟩ | ⟨_, _⟩ <;> try omega
    have hb := toNat_ofNat_of_lt (n := c.toNat) (by omega)
    rw [he, List.singleton_append, decode_cons_ascii, hb, Char.ofNat_toNat]
    rw [UInt8.lt_iff_toNat_lt, hb]
    exact hlt
  · obtain ⟨b, t, q, he, hq, ht⟩ := exists_lead hge
    have hb : ¬ b < 0x80 := by
      simp only [UInt8.lt_iff_toNat_lt, UInt8.reduceToNat]
      rcases lead?_eq_some_iff.mp hq with ⟨_, _, _⟩ | ⟨_, _, _⟩ | ⟨_, _, _⟩ <;> omega
    rw [he, List.cons_append, decode_cons_lead hb hq, ht.decodeFrom_append]

theorem decode_encode_append (t : Text) (bs : Bytes) : decode (encode t ++ bs) = t ++ decode bs := by
  induction t with
  | nil => rfl
  | cons c t ih => rw [encode_cons, List.append_assoc, decode_encodeChar_append, ih, List.cons_append]

/-- Decoding gives back every encoded text. -/
@[simp] theorem decode_encode (t : Text) : decode (encode t) = t := by
  simpa using decode_encode_append t []

theorem decode?_eq_some_iff {bytes : Bytes} {t : Text} : decode? bytes = some t ↔ bytes = encode t := by
  constructor
  · intro h
    unfold decode? at h
    dsimp only at h
    split at h
    · rename_i he
      rw [← Option.some.inj h, he]
    · cases h
  · rintro rfl
    simp [decode?]

/-- Behind an open sequence stands one character, with the bytes that complete it or else, if some are missing, as
U+FFFD. How much of the rest is left does not matter. -/
theorem exists_unit_of_pending {q : Pending} (hq : 0 < q.missing) (bs : Bytes) :
    ∃ c unit rest, bs = unit ++ rest ∧ (∀ r, r <+: rest → decodeFrom (some q) (unit ++ r) = c :: decode r) ∧
      (q.Completes unit c ∨ c = replacement ∧ unit.length < q.missing) := by
  -- on the bytes, for every open sequence, since each byte that continues one leaves another open
  induction bs generalizing q with
  | nil =>
      refine ⟨replacement, [], [], rfl, ?_, .inr ⟨rfl, hq⟩⟩
      intro r hr
      rw [List.prefix_nil.mp hr]
      rfl
  | cons b bs ih =>
      by_cases hin : q.least ≤ b ∧ b ≤ q.most
      · by_cases hm : q.missing ≤ 1
        · refine ⟨Char.ofNat (q.next b).value, [b], bs, rfl, ?_, .inl (.last hin.1 hin.2 (by omega))⟩
          intro r _
          rw [List.singleton_append]
          exact decodeFrom_cons_last hin hm r
        · obtain ⟨c, unit, rest, rfl, hdec, hcomp⟩ := ih (q := q.next b) (Nat.sub_pos_of_lt (by omega))
          refine ⟨c, b :: unit, rest, rfl, ?_, hcomp.imp (.more hin.1 hin.2 (by omega)) ?_⟩
          · intro r hr
            rw [List.cons_append, decodeFrom_cons_more hin hm]
            exact hdec r hr
          · exact And.imp_right Nat.add_lt_of_lt_sub
      · refine ⟨replacement, [], b :: bs, rfl, ?_, .inr ⟨rfl, hq⟩⟩
        intro r hr
        cases r with
        | nil => rfl
        | cons b' r =>
            rw [(List.cons_prefix_cons.mp hr).1]
            exact decodeFrom_cons_other hin r

/-- Bytes begin with one character's bytes: its encoding, or else at most three that are decoded as U+FFFD. -/
theorem exists_unit {bytes : Bytes} (hne : bytes ≠ []) :
    ∃ c unit rest, bytes = unit ++ rest ∧ (∀ r, r <+: rest → decode (unit ++ r) = c :: decode r) ∧
      (unit = utf8EncodeChar c ∨ c = replacement ∧ unit.length ≤ 3) := by
  cases bytes with
  | nil => exact absurd rfl hne
  | cons b bs =>
      by_cases hb : b < 0x80
      · exact ⟨Char.ofNat b.toNat, [b], bs, rfl, fun r _ => decode_cons_ascii hb r, .inl (encodeChar_ascii hb).symm⟩
      · cases hq : Decoder.lead? b with
        | none =>
            exact ⟨replacement, [b], bs, rfl, fun r _ => decode_cons_invalid hb hq r, .inr ⟨rfl, Nat.le_add_left 1 2⟩⟩
        | some q =>
            have hm : 0 < q.missing ∧ q.missing ≤ 3 := by
              rcases lead?_eq_some_iff.mp hq with ⟨_, _, rfl⟩ | ⟨_, _, rfl⟩ | ⟨_, _, rfl⟩ <;>
                exact ⟨Nat.succ_pos _, by simp⟩
            obtain ⟨c, unit, rest, rfl, hdec, hcomp⟩ := exists_unit_of_pending hm.1 bs
            refine ⟨c, b :: unit, rest, rfl, ?_, hcomp.imp (fun h => (h.encode hq).symm) (And.imp_right ?_)⟩
            · intro r hr
              rw [List.cons_append, decode_cons_lead hb hq, hdec r hr]
            · exact fun hlt => Nat.le_trans hlt hm.2

/-- Where a decoded text is divided, its bytes can be divided. -/
theorem decode_eq_append {bytes : Bytes} {s r : Text} (h : decode bytes = s ++ r) :
    ∃ as bs, bytes = as ++ bs ∧ decode as = s ∧ decode bs = r := by
  induction s generalizing bytes with
  | nil => exact ⟨[], bytes, rfl, rfl, h⟩
  | cons c s ih =>
      have hne : bytes ≠ [] := by
        rintro rfl
        cases h
      obtain ⟨c', unit, rest, rfl, hdec, _⟩ := exists_unit hne
      rw [hdec rest (List.prefix_refl rest), List.cons_append, List.cons.injEq] at h
      obtain ⟨as, bs, rfl, rfl, rfl⟩ := ih h.2
      exact ⟨unit ++ as, bs, by rw [List.append_assoc], by rw [hdec as (List.prefix_append as bs), h.1], rfl⟩

/-- A text without U+FFFD at the start of a decoded text stands for its own encoding. -/
theorem encode_of_decode_eq_append {bytes : Bytes} {t r : Text} (ht : replacement ∉ t) (h : decode bytes = t ++ r) :
    ∃ bs, bytes = encode t ++ bs ∧ decode bs = r := by
  induction t generalizing bytes with
  | nil => exact ⟨bytes, rfl, h⟩
  | cons c t ih =>
      have hne : bytes ≠ [] := by
        rintro rfl
        cases h
      obtain ⟨c', unit, rest, rfl, hdec, henc⟩ := exists_unit hne
      rw [hdec rest (List.prefix_refl rest), List.cons_append, List.cons.injEq] at h
      obtain ⟨rfl, h⟩ := h
      obtain ⟨bs, rfl, hr⟩ := ih (fun hm => ht (List.mem_cons_of_mem _ hm)) h
      refine ⟨bs, ?_, hr⟩
      rw [henc.resolve_right fun h => ht (h.1 ▸ List.mem_cons_self), encode_cons, List.append_assoc]

theorem decode_eq_nil_iff {bytes : Bytes} : decode bytes = [] ↔ bytes = [] := by
  constructor
  · intro h
    by_contra hne
    obtain ⟨c, unit, rest, rfl, hdec, _⟩ := exists_unit hne
    rw [hdec rest (List.prefix_refl rest)] at h
    cases h
  · rintro rfl
    rfl

/-- Encoding a decoded text again gives no fewer bytes. -/
theorem length_le_length_encode_decode (bytes : Bytes) : bytes.length ≤ (encode (decode bytes)).length := by
  generalize ht : decode bytes = t
  induction t generalizing bytes with
  | nil => rw [decode_eq_nil_iff.mp ht, encode_nil]
  | cons c t ih =>
      have hne : bytes ≠ [] := by
        rintro rfl
        cases ht
      obtain ⟨c', unit, rest, rfl, hdec, hunit⟩ := exists_unit hne
      rw [hdec rest (List.prefix_refl rest), List.cons.injEq] at ht
      obtain ⟨rfl, ht⟩ := ht
      have hle : unit.length ≤ (utf8EncodeChar c').length := by
        rcases hunit with rfl | ⟨rfl, hle⟩
        · exact Nat.le_refl _
        · exact hle
      rw [encode_cons, List.length_append, List.length_append]
      exact Nat.add_le_add hle (ih rest ht)

/-! ## ASCII -/

theorem decode_append_ascii {b : UInt8} (hb : b < 0x80) (as bs : Bytes) :
    decode (as ++ b :: bs) = decode as ++ Char.ofNat b.toNat :: decode bs := by
  rw [decode_append as (not_isContinuation_ascii hb), decode_cons_ascii hb]

/-- Where a decoded text holds an ASCII character, its bytes hold the byte of that. -/
theorem exists_of_decode_eq_ascii {b : UInt8} (hb : b < 0x80) {bytes : Bytes} {s r : Text}
    (h : decode bytes = s ++ Char.ofNat b.toNat :: r) :
    ∃ as bs, bytes = as ++ b :: bs ∧ decode as = s ∧ decode bs = r := by
  have hlt : b.toNat < 128 := UInt8.lt_iff_toNat_lt.mp hb
  have hne : replacement ∉ [Char.ofNat b.toNat] := by
    rw [List.mem_singleton]
    intro he
    have hchar := toNat_charOfNat_ascii hb
    rw [← he, show replacement.toNat = 0xFFFD from rfl] at hchar
    omega
  obtain ⟨as, bs, rfl, has, hbs⟩ := decode_eq_append h
  obtain ⟨rest, rfl, hrest⟩ := encode_of_decode_eq_append hne (hbs.trans List.singleton_append.symm)
  refine ⟨as, rest, ?_, has, hrest⟩
  rw [encode_cons, encodeChar_ascii hb, encode_nil, List.append_nil, List.singleton_append]

theorem mem_decode_ascii_iff {b : UInt8} (hb : b < 0x80) {bytes : Bytes} :
    Char.ofNat b.toNat ∈ decode bytes ↔ b ∈ bytes := by
  constructor
  · intro h
    obtain ⟨s, r, hdecode⟩ := List.append_of_mem h
    obtain ⟨as, bs, rfl, _⟩ := exists_of_decode_eq_ascii hb hdecode
    exact List.mem_append_right _ List.mem_cons_self
  · intro h
    obtain ⟨as, bs, rfl⟩ := List.append_of_mem h
    rw [decode_append_ascii hb]
    exact List.mem_append_right _ List.mem_cons_self

/-! ## The order of encodings -/

/-- The lexicographic order of bytes. -/
def BytesBefore (s t : Text) : Prop := List.Lex (· < ·) (encode s) (encode t)

theorem bytesBefore_irrefl (t : Text) : ¬ BytesBefore t t := Std.Irrefl.irrefl (encode t)

theorem encodeChar_lex {c d : Char} (h : c.toNat < d.toNat) (xs ys : Bytes) :
    List.Lex (· < ·) (utf8EncodeChar c ++ xs) (utf8EncodeChar d ++ ys) := by
  rcases encodeChar_cases c with ⟨hc, hec⟩ | ⟨hc, hc', hec⟩ | ⟨hc, hc', hec⟩ | ⟨hc, hc', hec⟩ <;>
    rcases encodeChar_cases d with ⟨hd, hed⟩ | ⟨hd, hd', hed⟩ | ⟨hd, hd', hed⟩ | ⟨hd, hd', hed⟩ <;>
    try omega
  all_goals
    rw [hec, hed]
    simp (disch := omega) only [List.cons_append, List.cons_lex_cons_iff, UInt8.lt_iff_toNat_lt, ← UInt8.toNat_inj,
      toNat_ofNat_of_lt]
    omega

/-- The order of code points is the order of bytes. -/
theorem bytesBefore_of_lex {s t : Text} (h : List.Lex (· < ·) (s.map Char.toNat) (t.map Char.toNat)) :
    BytesBefore s t := by
  induction s generalizing t with
  | nil =>
      cases t with
      | nil => cases h
      | cons d t =>
          obtain ⟨b, bs, he, _⟩ := encode_eq_cons (List.cons_ne_nil d t)
          rw [BytesBefore, he]
          exact .nil
  | cons c s ih =>
      cases t with
      | nil => cases h
      | cons d t =>
          rw [List.map_cons, List.map_cons, List.cons_lex_cons_iff] at h
          rcases h with hlt | ⟨heq, h⟩
          · exact encodeChar_lex hlt _ _
          · rw [Char.toNat_inj.mp heq]
            exact (ih h).append_left _ (utf8EncodeChar d)

end MarkerAudit.Utf8
