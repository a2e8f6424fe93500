import TokenLaunch.Hex
import TokenLaunch.Quoted

/-!
# Addresses

Accounts of the chain and their hexadecimal texts.
-/

namespace TokenLaunch

abbrev Address := BitVec 160

namespace Address

/-- Why a text is no address that can be used. -/
inductive Fault where
  | oddLength
  | wrongLength
  | badCharacter (c : Char) (position : Nat)
  | zero
deriving DecidableEq, Repr

def Fault.message : Fault → String
  | oddLength => "odd number of digits"
  | wrongLength => "invalid string length"
  | badCharacter c position =>
    "invalid character " ++ Quoted.char c ++ " at position " ++ Text.decimal position
  | zero => "zero address cannot govern the token"

/-! ## Texts -/

/-- The number of hexadecimal digits, or the first character that is none and its position. -/
def readHex (position value : Nat) : List Char → Except Fault Nat
  | [] => .ok value
  | c :: cs =>
    match Hex.value? c with
    | some d => readHex (position + 1) (16 * value + d) cs
    | none => .error (.badCharacter c position)

/-- Reads forty digits, with or without a mark before them.  Lengths and positions count the
bytes of the text, each of which is a character of its own. -/
def parse (s : String) : Except Fault Address :=
  let digits := Hex.dropMark (s.toUTF8.toList.map fun b => Char.ofNat b.toNat)
  if digits.length % 2 = 1 then .error .oddLength
  else if digits.length ≠ 40 then .error .wrongLength
  else (readHex 0 0 digits).map (BitVec.ofNat 160)

/-- The address with every digit in lower case, after the mark. -/
def text (a : Address) : String :=
  let digits := Nat.toDigits 16 a.toNat
  "0x" ++ String.ofList (List.replicate (40 - digits.length) '0' ++ digits)

/-- An address that may govern a token: any but the zero address. -/
def parseAuthority (s : String) : Except Fault Address := do
  let a ← parse s
  if a = 0 then .error .zero else .ok a

end Address

end TokenLaunch
