import TokenLaunch.Power
import TokenLaunch.Text

/-!
# Numbers of 64-bit floating point

A finite number is held exactly, as a sign, a mantissa and a power of two, so rounding and the
shortest decimal text are arithmetic on natural numbers.
-/

namespace TokenLaunch

/-- The number `mantissa * 2 ^ exponent`, with a sign that zero keeps too. -/
structure Binary64 where
  negative : Bool
  mantissa : Nat
  exponent : Int
deriving DecidableEq, Repr

namespace Binary64

def zero : Binary64 := ⟨false, 0, -1074⟩

def neg (x : Binary64) : Binary64 := { x with negative := !x.negative }

/-! ## Rounding -/

/-- The quotient to the nearest integer, a half going to the even one. -/
def roundDiv (num den : Nat) : Nat :=
  let q := num / den
  let r := 2 * (num % den)
  if r < den then q else if den < r then q + 1 else q + q % 2

/-- `num / den / 2 ^ e` as a quotient of natural numbers. -/
def scaled (num den : Nat) (e : Int) : Nat × Nat :=
  if 0 ≤ e then (num, den * twoTo e.toNat) else (num * twoTo (-e).toNat, den)

/-- The exponent that gives the quotient a mantissa of 53 bits, or the least exponent there is. -/
def exponentOf (num den : Nat) : Int :=
  let guess : Int := (Nat.log2 num : Int) - Nat.log2 den - 52
  let (n, d) := scaled num den guess
  max (-1074) (if n < twoTo 52 * d then guess - 1 else guess)

/-- The number nearest to `num / den`; none when it is too large. -/
def ofRatio (num den : Nat) : Option Binary64 :=
  if num = 0 then some zero
  else
    let e := exponentOf num den
    let (n, d) := scaled num den e
    let m := roundDiv n d
    let (m, e) := if m = twoTo 53 then (twoTo 52, e + 1) else (m, e)
    if 971 < e then none else some ⟨false, m, e⟩

def ofNat (n : Nat) : Option Binary64 := ofRatio n 1

/-- The magnitude as a quotient. -/
def ratio (x : Binary64) : Nat × Nat :=
  if 0 ≤ x.exponent then (x.mantissa * twoTo x.exponent.toNat, 1)
  else (x.mantissa, twoTo (-x.exponent).toNat)

def mul (x y : Binary64) : Option Binary64 :=
  ofRatio (x.ratio.1 * y.ratio.1) (x.ratio.2 * y.ratio.2)

def div (x y : Binary64) : Option Binary64 :=
  ofRatio (x.ratio.1 * y.ratio.2) (x.ratio.2 * y.ratio.1)

/-! ## Reading a decimal

A decimal is read as its digits in one word of 64 bits, rounded, and then scaled by one rounded
power of ten, so the last bit may differ from the nearest number. -/

/-- The leading digits that fit one word, and how many digits are left over. -/
def leadingDigits : Nat → List Nat → Nat × Nat
  | word, [] => (word, 0)
  | word, d :: ds =>
    if word * 10 + d < twoTo 64 then leadingDigits (word * 10 + d) ds else (word, ds.length + 1)

/-- Divides by `10 ^ 308` until what is left to divide by is a power in range. -/
def shrink : Nat → Binary64 → Nat → Option Binary64
  | 0, x, _ => some x
  | fuel + 1, x, k =>
    if x.mantissa = 0 then some x
    else if k ≤ 308 then do x.div (← ofNat (tenTo k))
    else do shrink fuel (← x.div (← ofNat (tenTo 308))) (k - 308)

/-- The word times a power of ten; none when the result is too large. -/
def scaleTen (word : Nat) (e : Int) : Option Binary64 := do
  let x ← ofNat word
  if 0 ≤ e then
    if x.mantissa = 0 then some x
    else if e ≤ 308 then x.mul (← ofNat (tenTo e.toNat)) else none
  else
    let k := (-e).toNat
    if k ≤ 1000 then shrink 4 x k else some zero

/-- The number with these digits before and after the point, times a power of ten.  Where a digit
before the point is too much for the word, one after it may still fit. -/
def ofDecimal (whole fraction : List Nat) (e : Int) : Option Binary64 :=
  let (word, before) := leadingDigits 0 whole
  let (word, after) := leadingDigits word fraction
  scaleTen word (e + before - ((fraction.length - after : Nat) : Int))

/-! ## The shortest decimal text -/

/-- Whether the decimal `d * 10 ^ k` rounds to the magnitude of `x`. -/
def readsAs (x : Binary64) (d : Nat) (k : Int) : Bool :=
  let y := if 0 ≤ k then ofRatio (d * tenTo k.toNat) 1 else ofRatio d (tenTo (-k).toNat)
  y == some { x with negative := false }

/-- The two decimals of step `10 ^ k` around the magnitude of `x`, the nearer first and, of two that
are equally near, the even one. -/
def neighbours (x : Binary64) (k : Int) : List Nat :=
  let (n, d) := x.ratio
  let (n, d) := if 0 ≤ k then (n, d * tenTo k.toNat) else (n * tenTo (-k).toNat, d)
  let q := n / d
  if roundDiv n d = q then [q, q + 1] else [q + 1, q]

/-- The power of ten of the first digit. -/
def magnitude (x : Binary64) : Int :=
  let (n, d) := x.ratio
  if d ≤ n then ((Nat.toDigits 10 (n / d)).length : Int) - 1
  else
    let k := (Nat.toDigits 10 (d / n)).length
    if d ≤ n * tenTo (k - 1) then -((k : Int) - 1) else -(k : Int)

/-- The fewest digits `d` and the power `k` such that `d * 10 ^ k` rounds to the magnitude of
`x`; `count` bounds how many more counts of digits are tried. -/
def shortestFrom (x : Binary64) (k : Int) : Nat → Nat × Int
  | 0 => (x.ratio.1 / x.ratio.2, 0)
  | count + 1 =>
    match (neighbours x k).find? (readsAs x · k) with
    | some d => (d, k)
    | none => shortestFrom x (k - 1) count

/-- Drops the zeros at the end of the digits. -/
def stripZeros : Nat → Nat → Int → Nat × Int
  | 0, d, k => (d, k)
  | fuel + 1, d, k => if d % 10 = 0 ∧ d ≠ 0 then stripZeros fuel (d / 10) (k + 1) else (d, k)

def shortest (x : Binary64) : Nat × Int :=
  let (d, k) := shortestFrom x x.magnitude 20
  stripZeros 20 d k

def zeros (n : Nat) : List Char := List.replicate n '0'

/-- The shortest decimal that reads as the number: positional from `1e-5` up to below `1e16`, with
a point always, else with an exponent that carries its sign. -/
def text (x : Binary64) : String :=
  let sign := if x.negative then "-" else ""
  if x.mantissa = 0 then sign ++ "0.0"
  else
    let (d, k) := x.shortest
    let digits := Nat.toDigits 10 d
    let point : Int := digits.length + k
    let body :=
      if 0 ≤ k ∧ point ≤ 16 then digits ++ zeros k.toNat ++ ['.', '0']
      else if 0 < point ∧ point ≤ 16 then
        digits.take point.toNat ++ '.' :: digits.drop point.toNat
      else if -5 < point ∧ point ≤ 0 then '0' :: '.' :: zeros (-point).toNat ++ digits
      else
        let e := point - 1
        let lead := match digits with
          | [c] => [c]
          | c :: cs => c :: '.' :: cs
          | [] => []
        lead ++ 'e' :: (if e < 0 then '-' else '+') :: Nat.toDigits 10 e.natAbs
    sign ++ String.ofList body

end Binary64

end TokenLaunch
