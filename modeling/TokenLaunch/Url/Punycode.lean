import TokenLaunch.Power
import TokenLaunch.Text

/-!
# Punycode

Labels beyond ASCII as letters, digits and hyphens: the ASCII characters of the label, then the
places of the others as integers of variable length in base 36.
-/

namespace TokenLaunch.Url.Punycode

def digit (n : Nat) : Char := if n < 26 then Char.ofNat (n + 0x61) else Char.ofNat (n - 26 + 0x30)

def digit? (c : Char) : Option Nat :=
  if c.isLower then some (c.toNat - 0x61)
  else if c.isUpper then some (c.toNat - 0x41)
  else if c.isDigit then some (c.toNat - 0x30 + 26)
  else none

/-- The least digit at position `k` that does not end an integer, at most 26. -/
def threshold (bias k : Nat) : Nat := max 1 (min 26 (k - bias))

/-- Divides by 35 until at most 455 is left, and counts 36 for each division. -/
def scale (fuel delta k : Nat) : Nat × Nat :=
  match fuel with
  | 0 => (delta, k)
  | fuel + 1 => if 455 < delta then scale fuel (delta / 35) (k + 36) else (delta, k)

/-- The bias after an integer, of `count` characters placed so far. -/
def adapt (delta count : Nat) (isFirst : Bool) : Nat :=
  let delta := if isFirst then delta / 700 else delta / 2
  let (delta, k) := scale delta (delta + delta / count) 0
  k + 36 * delta / (delta + 38)

/-! ## Writing -/

/-- An integer; each digit but the last is at least the threshold of its position. -/
def integer (bias : Nat) : Nat → Nat → Nat → List Char
  | 0, _, _ => []
  | fuel + 1, k, q =>
    let t := threshold bias k
    if q < t then [digit q]
    else digit (t + (q - t) % (36 - t)) :: integer bias fuel (k + 36) ((q - t) / (36 - t))

structure State where
  out : List Char
  delta : Nat
  bias : Nat
  /-- The characters placed so far. -/
  count : Nat

/-- Passes a character of the label when the characters of code point `n` are placed. -/
def place (basic n : Nat) (s : State) (c : Char) : State :=
  if c.toNat < n then { s with delta := s.delta + 1 }
  else if c.toNat = n then
    { out := s.out ++ integer s.bias (s.delta + 1) 36 s.delta, delta := 0,
      bias := adapt s.delta (s.count + 1) (s.count == basic), count := s.count + 1 }
  else s

/-- Places the characters of each code point of an ascending list, `n` being the least that may
come. -/
def placeAll (label : List Char) (basic : Nat) : Nat → State → List Nat → State
  | _, s, [] => s
  | n, s, m :: ms =>
    let s := label.foldl (place basic m) { s with delta := s.delta + (m - n) * (s.count + 1) }
    placeAll label basic (m + 1) { s with delta := s.delta + 1 } ms

def isBasic (c : Char) : Bool := c.toNat < 0x80

/-- The most characters that a label may have to be written so. -/
def maxLabel : Nat := 1000

/-- The label in letters, digits and hyphens. -/
def write (label : List Char) : List Char :=
  let basic := label.filter isBasic
  let others := ((label.filter (!isBasic ·)).map Char.toNat).eraseDups.mergeSort
  let start := if basic.isEmpty then [] else basic ++ ['-']
  (placeAll label basic.length 0x80 ⟨start, 0, 72, basic.length⟩ others).out

def encode (label : List Char) : Option (List Char) :=
  if label.length ≤ maxLabel then some (write label) else none

/-! ## Reading -/

/-- The value of the integer at the head of a text and what follows it; the weight of every digit
is below a power of two. -/
def integer? (bias k weight value : Nat) : List Char → Option (Nat × List Char)
  | [] => none
  | c :: cs => do
    let d ← digit? c
    let t := threshold bias k
    let value := value + d * weight
    if d < t then some (value, cs)
    else if weight * (36 - t) < twoTo 32 then
      integer? bias (k + 36) (weight * (36 - t)) value cs
    else none

/-- Whether a number is the code point of a character. -/
def isCodePoint (n : Nat) : Bool := n < 0xD800 || (0xDFFF < n && n < 0x110000)

/-- Puts the characters of the integers into the label; `i` is the place of the last one and `n`
its code point. -/
def insertAll : Nat → Nat → Nat → Nat → List Char → List Char → Option (List Char)
  | _, _, _, _, out, [] => some out
  | 0, _, _, _, _, _ => none
  | fuel + 1, n, i, bias, out, cs => do
    let (delta, rest) ← integer? bias 36 1 0 cs
    let count := out.length + 1
    let n := n + (i + delta) / count
    let place := (i + delta) % count
    if isCodePoint n then
      insertAll fuel n (place + 1) (adapt delta count (i == 0)) (out.insertIdx place (Char.ofNat n))
        rest
    else none

/-- The most characters that a text may have to be read. -/
def maxText : Nat := 2000

/-- The label of a text; a hyphen that nothing comes before is no digit. -/
def decode (cs : List Char) : Option (List Char) :=
  let tail := (cs.reverse.takeWhile (· != '-')).reverse
  let basic := cs.take (cs.length - tail.length - 1)
  if maxText < cs.length ∨ !basic.all isBasic then none
  else if basic.isEmpty then insertAll cs.length 0x80 0 72 [] cs
  else insertAll tail.length 0x80 0 72 basic tail

end TokenLaunch.Url.Punycode
