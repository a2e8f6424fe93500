import TokenLaunch.Power
import TokenLaunch.Text

/-!
# Amounts

Quantities of tokens as they are entered and in base units, and the whole numbers beside them.
-/

namespace TokenLaunch

/-- One more than the largest word of the chain. -/
def wordBound : Nat := twoTo 256

/-- Why a text is not the number that is wanted. -/
inductive NumberFault where
  /-- No digits, or digits with something else among them. -/
  | notDecimal
  /-- More decimals than a scale can have. -/
  | scale (decimals : Nat)
  /-- The number, or its digits before they are scaled, do not fit a word of the chain. -/
  | wordOverflow
  /-- An integer without any text. -/
  | empty
  /-- A character that is no digit. -/
  | badDigit
  /-- An integer that is too large for its field. -/
  | tooLarge
deriving DecidableEq, Repr

def NumberFault.message : NumberFault → String
  | notDecimal => "expected a non-negative decimal quantity"
  | scale d => "\"" ++ Text.decimal d ++ "\" is not a valid unit"
  | wordOverflow => "number does not fit in the integer size"
  | empty => "cannot parse integer from empty string"
  | badDigit => "invalid digit found in string"
  | tooLarge => "number too large to fit in target type"

/-! ## Integers of a bounded size -/

/-- Reads digits from left to right and stops at the first that is none or that makes the number
reach the bound. -/
def readDigits (bound : Nat) : Nat → List Char → Except NumberFault Nat
  | n, [] => .ok n
  | n, c :: cs =>
    if c.isDigit then
      let n := 10 * n + Text.digitValue c
      if n < bound then readDigits bound n cs else .error .tooLarge
    else .error .badDigit

/-- An integer below the bound, with or without a plus sign before its digits. -/
def readInteger (bound : Nat) (s : String) : Except NumberFault Nat :=
  match s.toList with
  | [] => .error .empty
  | ['+'] => .error .badDigit
  | '+' :: cs => readDigits bound 0 cs
  | cs => readDigits bound 0 cs

/-! ## Quantities -/

/-- The digits before and after the point of a quantity. -/
structure Quantity where
  whole : List Char
  fraction : List Char
deriving DecidableEq, Repr

/-- One digit or more, and after them nothing, or a point and one digit or more. -/
def Quantity.ofChars? (cs : List Char) : Option Quantity :=
  let whole := cs.takeWhile Char.isDigit
  match whole, cs.dropWhile Char.isDigit with
  | [], _ => none
  | _, [] => some ⟨whole, []⟩
  | _, '.' :: fraction =>
    if fraction.isEmpty ∨ !fraction.all Char.isDigit then none else some ⟨whole, fraction⟩
  | _, _ => none

/-- The quantity times ten to the number of decimals: what is beyond the last decimal is cut off,
and neither the digits nor the product may exceed a word. -/
def Quantity.toBaseUnits (q : Quantity) (decimals : Nat) : Except NumberFault Nat :=
  let kept := q.fraction.take decimals
  let digits := Text.number (q.whole ++ kept)
  let scaled := digits * tenTo (decimals - kept.length)
  if digits < wordBound ∧ scaled < wordBound then .ok scaled else .error .wordOverflow

/-- A quantity of tokens, as it was entered and in base units. -/
structure Amount where
  entered : String
  baseUnits : Nat
deriving DecidableEq, Repr

/-- The most decimals that a scale can have: ten to this power is the last that fits a word. -/
def maxDecimals : Nat := 77

/-- Reads a quantity and scales it. -/
def Amount.parse (s : String) (decimals : Nat) : Except NumberFault Amount :=
  let entered := Text.trim s
  match Quantity.ofChars? entered.toList with
  | none => .error .notDecimal
  | some q =>
    if maxDecimals < decimals then .error (.scale decimals)
    else (q.toBaseUnits decimals).map (⟨entered, ·⟩)

end TokenLaunch
