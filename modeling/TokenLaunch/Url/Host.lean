import TokenLaunch.Power
import TokenLaunch.Url.Domain
import TokenLaunch.Url.Percent

/-!
# Hosts

Domain names and addresses of machines, as URLs name them.
-/

namespace TokenLaunch.Url

/-- Why a text is no URL. -/
inductive Fault where
  | noScheme
  | emptyHost
  | badName
  | badCharacter
  | badPort
  | badIpv4
  | badIpv6
deriving DecidableEq, Repr

def Fault.message : Fault → String
  | noScheme => "relative URL without a base"
  | emptyHost => "empty host"
  | badName => "invalid international domain name"
  | badCharacter => "invalid domain character"
  | badPort => "invalid port number"
  | badIpv4 => "invalid IPv4 address"
  | badIpv6 => "invalid IPv6 address"

/-- The value of an option, or a fault where there is none. -/
def orFault {α : Type} (fault : Fault) : Option α → Except Fault α
  | some a => .ok a
  | none => .error fault

inductive Host where
  /-- A name; of no characters where a URL leaves its host empty. -/
  | domain (name : String)
  | ipv4 (address : BitVec 32)
  /-- Eight pieces of sixteen bits. -/
  | ipv6 (pieces : List Nat)
deriving DecidableEq, Repr

namespace Host

def hexNumber (cs : List Char) : Nat := cs.foldl (fun n c => 16 * n + (Hex.value? c).getD 0) 0

def isHexDigit (c : Char) : Bool := (Hex.value? c).isSome

/-- The number of digits that are all below the base. -/
def number? (base : Nat) (cs : List Char) : Option Nat :=
  if cs.all fun c => ((Hex.value? c).filter (· < base)).isSome then
    some (cs.foldl (fun n c => base * n + (Hex.value? c).getD 0) 0)
  else none

/-! ## Addresses of four bytes -/

/-- A number in base 16 after `0x`, in base 8 after `0`, and in base 10 otherwise. -/
def ipv4Number? (cs : List Char) : Option Nat :=
  match cs with
  | [] => none
  | '0' :: 'x' :: rest => number? 16 rest
  | '0' :: 'X' :: rest => number? 16 rest
  | '0' :: c :: rest => number? 8 (c :: rest)
  | cs => number? 10 cs

/-- The parts of a name between its dots, a dot at the end set aside. -/
def dottedParts (cs : List Char) : List (List Char) :=
  let parts := Domain.splitDots [] cs
  if parts.length > 1 ∧ parts.getLast? = some [] then parts.dropLast else parts

/-- A name whose last part is a number has to be an address. -/
def endsInNumber (cs : List Char) : Bool :=
  match (dottedParts cs).getLast? with
  | none => false
  | some part => !part.isEmpty && (part.all Char.isDigit || (ipv4Number? part).isSome)

/-- Up to four numbers: each but the last is a byte, and the last fills the bytes that are left. -/
def ipv4OfNumbers? (bytes : Nat) : List Nat → Option Nat
  | [] => none
  | [n] => if n < twoTo (8 * bytes) then some n else none
  | n :: ns =>
    match bytes with
    | 0 => none
    | bytes + 1 =>
      if n < 256 then (ipv4OfNumbers? bytes ns).map (n * twoTo (8 * bytes) + ·) else none

def ipv4? (cs : List Char) : Option Host := do
  let parts := dottedParts cs
  if parts.length > 4 then none
  else do
    let n ← ipv4OfNumbers? 4 (← parts.mapM ipv4Number?)
    return .ipv4 (BitVec.ofNat 32 n)

/-! ## Addresses of eight pieces -/

/-- Up to four hexadecimal digits. -/
def piece? (cs : List Char) : Option Nat :=
  if cs.isEmpty ∨ cs.length > 4 ∨ !cs.all isHexDigit then none else some (hexNumber cs)

/-- A byte in decimal digits without leading zeros. -/
def byte? (cs : List Char) : Option Nat := do
  if cs.isEmpty ∨ (cs.length > 1 ∧ cs.head? = some '0') then none
  else do
    let n ← number? 10 cs
    if n < 256 then some n else none

/-- Four bytes with dots between them, as two pieces. -/
def dottedPieces? (cs : List Char) : Option (List Nat) := do
  match ← (Domain.splitDots [] cs).mapM byte? with
  | [a, b, c, d] => some [256 * a + b, 256 * c + d]
  | _ => none

/-- The parts between the colons. -/
def splitColons (part : List Char) : List Char → List (List Char)
  | [] => [part.reverse]
  | c :: cs => if c = ':' then part.reverse :: splitColons [] cs else splitColons (c :: part) cs

/-- The pieces of parts; only the last of an address may be dotted. -/
def piecesOf? (isLast : Bool) : List (List Char) → Option (List Nat)
  | [] => some []
  | [p] => if isLast && p.contains '.' then dottedPieces? p else (piece? p).map fun n => [n]
  | p :: ps => do
    let n ← piece? p
    (piecesOf? isLast ps).map (n :: ·)

/-- The pieces of a text that may be empty. -/
def pieces? (isLast : Bool) (cs : List Char) : Option (List Nat) :=
  if cs.isEmpty then some [] else piecesOf? isLast (splitColons [] cs)

/-- What stands before and after the first pair of colons. -/
def splitGap (before : List Char) : List Char → Option (List Char × List Char)
  | [] => none
  | ':' :: ':' :: rest => some (before.reverse, rest)
  | c :: rest => splitGap (c :: before) rest

/-- Eight pieces, or fewer with a pair of colons in the place of zeros. -/
def ipv6? (cs : List Char) : Option Host :=
  match splitGap [] cs with
  | none => do
    let ps ← piecesOf? true (splitColons [] cs)
    if ps.length = 8 then some (.ipv6 ps) else none
  | some (before, after) => do
    let xs ← pieces? false before
    let ys ← pieces? true after
    if xs.length + ys.length < 8 then
      some (.ipv6 (xs ++ List.replicate (8 - xs.length - ys.length) 0 ++ ys))
    else none

/-! ## Texts -/

/-- The length of the run of zeros at the head. -/
def zeros (ps : List Nat) : Nat := (ps.takeWhile (· == 0)).length

/-- The length of the longest run of zeros. -/
def longestZeros : List Nat → Nat
  | [] => 0
  | p :: ps => max (zeros (p :: ps)) (longestZeros ps)

def pieceText (n : Nat) : List Char := Nat.toDigits 16 n

def piecesText (ps : List Nat) : List Char := [':'].intercalate (ps.map pieceText)

/-- The pieces up to the first run of `n` zeros, and those after it. -/
def splitZeros (n : Nat) : List Nat → List Nat × List Nat
  | [] => ([], [])
  | p :: ps =>
    if zeros (p :: ps) = n then ([], (p :: ps).drop n)
    else
      let (before, after) := splitZeros n ps
      (p :: before, after)

/-- The first of the longest runs of two zeros or more is left out. -/
def ipv6Text (ps : List Nat) : List Char :=
  let n := longestZeros ps
  if n < 2 then piecesText ps
  else
    let (before, after) := splitZeros n ps
    piecesText before ++ ':' :: ':' :: piecesText after

def ipv4Text (a : BitVec 32) : List Char :=
  let n := a.toNat
  let bytes := [n / twoTo 24, n / twoTo 16 % 256, n / twoTo 8 % 256, n % 256]
  ['.'].intercalate (bytes.map (Nat.toDigits 10))

def text : Host → String
  | domain name => name
  | ipv4 a => String.ofList (ipv4Text a)
  | ipv6 ps => String.ofList ('[' :: ipv6Text ps ++ [']'])

/-! ## Reading -/

/-- The address between brackets. -/
def bracketed (cs : List Char) : Except Fault Host :=
  orFault .badIpv6 (if cs.getLast? = some ']' then ipv6? cs.dropLast else none)

/-- The name that characters stand for, percent signs and all. -/
def name? (cs : List Char) : Option (List Char) := do
  Domain.ofChars? (← String.fromUTF8? ⟨(percentDecode cs).toArray⟩).toList

/-- The host of a scheme of the web. -/
def ofChars (cs : List Char) : Except Fault Host :=
  match cs with
  | '[' :: rest => bracketed rest
  | cs => do
    let name ← orFault .badName (name? cs)
    if name.isEmpty then .error .emptyHost
    else if endsInNumber name then orFault .badIpv4 (ipv4? name)
    else .ok (.domain (String.ofList name))

/-- What no host holds, whatever its scheme. -/
def isForbidden (c : Char) : Bool := ("\x00\t\n\r #/:<>?@[\\]^|".toList).contains c

/-- The host of any other scheme: a name that nobody looks into. -/
def ofPlainChars (cs : List Char) : Except Fault Host :=
  match cs with
  | '[' :: rest => bracketed rest
  | cs =>
    if cs.any isForbidden then .error .badCharacter
    else .ok (.domain (String.ofList (percentEncode isControl cs)))

end Host

end TokenLaunch.Url
