import AffiliateLinks.Text.Basic

/-!
# UTF-8

A byte sequence is read as a sequence of characters and of malformed runs. A malformed run is the
longest beginning of a well-formed sequence that breaks off, or else one byte, so that reading
leniently puts one replacement character for each run.
-/

namespace AffiliateLinks

abbrev Bytes := List UInt8

namespace Utf8

def encode (t : Text) : Bytes := t.flatMap String.utf8EncodeChar

inductive Piece
  | char (c : Char)
  | malformed (run : Bytes)
  deriving DecidableEq, Repr

/-- What a first byte asks for: the bounds of the second byte, the bits that the first one gives,
and how many bytes follow the second. -/
structure Lead where
  low : Nat
  high : Nat
  bits : Nat
  more : Nat

def lead? (b : Nat) : Option Lead :=
  if 0xC2 ≤ b ∧ b ≤ 0xDF then some ⟨0x80, 0xBF, b - 0xC0, 0⟩
  else if b = 0xE0 then some ⟨0xA0, 0xBF, 0, 1⟩
  else if b = 0xED then some ⟨0x80, 0x9F, 0xD, 1⟩
  else if 0xE1 ≤ b ∧ b ≤ 0xEF then some ⟨0x80, 0xBF, b - 0xE0, 1⟩
  else if b = 0xF0 then some ⟨0x90, 0xBF, 0, 2⟩
  else if 0xF1 ≤ b ∧ b ≤ 0xF3 then some ⟨0x80, 0xBF, b - 0xF0, 2⟩
  else if b = 0xF4 then some ⟨0x80, 0x8F, 4, 2⟩
  else none

def isTail (b : UInt8) : Bool := 0x80 ≤ b.toNat && b.toNat ≤ 0xBF

def extend (bits : Nat) (b : UInt8) : Nat := bits * 64 + (b.toNat - 0x80)

/-- The first piece of a non-empty sequence, and what follows it. -/
def next (b : UInt8) (rest : Bytes) : Piece × Bytes :=
  if b.toNat < 0x80 then (.char (Char.ofNat b.toNat), rest)
  else match lead? b.toNat, rest with
    | some l, b₁ :: r₁ =>
      if l.low ≤ b₁.toNat ∧ b₁.toNat ≤ l.high then
        let bits := extend l.bits b₁
        match l.more, r₁ with
        | 0, _ => (.char (Char.ofNat bits), r₁)
        | _ + 1, [] => (.malformed [b, b₁], r₁)
        | m + 1, b₂ :: r₂ =>
          if isTail b₂ then
            let bits := extend bits b₂
            match m, r₂ with
            | 0, _ => (.char (Char.ofNat bits), r₂)
            | _ + 1, [] => (.malformed [b, b₁, b₂], r₂)
            | _ + 1, b₃ :: r₃ =>
              if isTail b₃ then (.char (Char.ofNat (extend bits b₃)), r₃)
              else (.malformed [b, b₁, b₂], r₂)
          else (.malformed [b, b₁], r₁)
      else (.malformed [b], rest)
    | _, _ => (.malformed [b], rest)

theorem length_next_le (b : UInt8) (rest : Bytes) : (next b rest).2.length ≤ rest.length := by
  unfold next
  split
  · simp
  · split
    · split
      · dsimp only
        split
        · simp
        · simp
        · split
          · split
            · simp; omega
            · simp
            · split
              · simp; omega
              · simp
          · simp
      · simp
    · simp

def pieces : Bytes → List Piece
  | [] => []
  | b :: rest => (next b rest).1 :: pieces (next b rest).2
  termination_by bs => bs.length
  decreasing_by
    have := length_next_le b rest
    simp only [List.length_cons]
    omega

/-- The text of a well-formed sequence. -/
def decode? (bs : Bytes) : Option Text :=
  (pieces bs).mapM fun
    | .char c => some c
    | .malformed _ => none

/-- The text with one replacement character for each malformed run. -/
def decodeLossy (bs : Bytes) : Text :=
  (pieces bs).map fun
    | .char c => c
    | .malformed _ => '\uFFFD'

end Utf8

end AffiliateLinks
