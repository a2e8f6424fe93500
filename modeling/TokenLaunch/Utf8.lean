import TokenLaunch.Power

/-!
# UTF-8 read with replacement

Texts of bytes that need not be well-formed.
-/

namespace TokenLaunch.Utf8

/-- U+FFFD, which stands for what cannot be read. -/
def replacement : Char := Char.ofNat 0xFFFD

/-- The number of bytes that follow a leading byte, and the bounds of the first of them. -/
def following? (b : Nat) : Option (Nat × Nat × Nat) :=
  if 0xC2 ≤ b ∧ b ≤ 0xDF then some (1, 0x80, 0xBF)
  else if b = 0xE0 then some (2, 0xA0, 0xBF)
  else if b = 0xED then some (2, 0x80, 0x9F)
  else if 0xE1 ≤ b ∧ b ≤ 0xEF then some (2, 0x80, 0xBF)
  else if b = 0xF0 then some (3, 0x90, 0xBF)
  else if 0xF1 ≤ b ∧ b ≤ 0xF3 then some (3, 0x80, 0xBF)
  else if b = 0xF4 then some (3, 0x80, 0x8F)
  else none

/-- Bits of the code point that a leading byte holds. -/
def leadingBits (count b : Nat) : Nat := b % twoTo (6 - count)

/-- What is read of a sequence so far. -/
structure Pending where
  /-- Bytes still missing. -/
  missing : Nat
  low : Nat
  high : Nat
  code : Nat

/-- Reads bytes, `pending` being the sequence that has begun.  A sequence that breaks off is one
replacement, and the byte that breaks it is read anew. -/
def decodeFrom : Option Pending → List UInt8 → List Char
  | none, [] => []
  | some _, [] => [replacement]
  | none, b :: bs => start b.toNat bs
  | some p, b :: bs =>
    let n := b.toNat
    if p.low ≤ n ∧ n ≤ p.high then
      let code := 64 * p.code + n % 64
      if p.missing = 1 then Char.ofNat code :: decodeFrom none bs
      else decodeFrom (some ⟨p.missing - 1, 0x80, 0xBF, code⟩) bs
    else replacement :: start n bs
where
  /-- Reads a byte that begins a sequence, and the bytes after it. -/
  start (n : Nat) (bs : List UInt8) : List Char :=
    if n < 0x80 then Char.ofNat n :: decodeFrom none bs
    else
      match following? n with
      | none => replacement :: decodeFrom none bs
      | some (count, low, high) => decodeFrom (some ⟨count, low, high, leadingBits count n⟩) bs

def decode (bs : List UInt8) : String := String.ofList (decodeFrom none bs)

end TokenLaunch.Utf8
