import TokenLaunch.Text

/-!
# Hexadecimal text

Bytes as pairs of lower-case digits, and the marks `0x` in front of them.
-/

namespace TokenLaunch.Hex

/-- The value of a digit of either case. -/
def value? (c : Char) : Option Nat :=
  let n := c.toNat
  if '0'.toNat ≤ n ∧ n ≤ '9'.toNat then some (n - '0'.toNat)
  else if 'a'.toNat ≤ n ∧ n ≤ 'f'.toNat then some (n - 'a'.toNat + 10)
  else if 'A'.toNat ≤ n ∧ n ≤ 'F'.toNat then some (n - 'A'.toNat + 10)
  else none

/-- The lower-case digit of the last four bits. -/
def digit (n : Nat) : Char := (Nat.toDigits 16 (n % 16)).headD '0'

def byteChars (b : UInt8) : List Char := [digit (b.toNat / 16), digit b.toNat]

/-- Two lower-case digits a byte. -/
def encode (bytes : List UInt8) : String := String.ofList (bytes.flatMap byteChars)

/-- The bytes of pairs of digits; none when a digit is left over or is none. -/
def decode? : List Char → Option (List UInt8)
  | [] => some []
  | [_] => none
  | a :: b :: rest => do
    let a ← value? a
    let b ← value? b
    (decode? rest).map (UInt8.ofNat (16 * a + b) :: ·)

/-- The text without every leading mark `0x`. -/
def dropMarks : List Char → List Char
  | '0' :: 'x' :: rest => dropMarks rest
  | cs => cs

/-- The text without one leading mark `0x` or `0X`. -/
def dropMark : List Char → List Char
  | '0' :: 'x' :: rest => rest
  | '0' :: 'X' :: rest => rest
  | cs => cs

end TokenLaunch.Hex
