import TokenLaunch.Unicode.Composition
import TokenLaunch.Unicode.Direction
import TokenLaunch.Unicode.Joining
import TokenLaunch.Unicode.Mark
import TokenLaunch.Url.Mapping
import TokenLaunch.Url.Punycode

/-!
# Domain names

Host names in the form in which they are looked up: every character replaced by what it stands
for, and labels beyond ASCII written in ASCII.
-/

namespace TokenLaunch.Url.Domain

open Unicode

/-- The characters of ASCII that host names may not hold. -/
def isForbidden (c : Char) : Bool :=
  c.toNat ≤ 0x20 || c.toNat == 0x7F || "%#/:<>?@[\\]^|".toList.contains c

/-! ## Joiners -/

/-- A sign that ends the vowel of a consonant. -/
def isVirama (c : Char) : Bool := combiningClass c == 9

/-- The zero-width joiner and its opposite, which may stand only where writing needs them. -/
def isJoiner (c : Char) : Bool := c.toNat == 0x200C || c.toNat == 0x200D

/-- Whether the first character that does not let its neighbours join joins in one of two ways. -/
def joins (a b : Joining) (cs : List Char) : Bool :=
  match (cs.dropWhile fun c => joining? c = some .transparent).head?.bind joining? with
  | some j => j = a || j = b
  | none => false

/-- Whether a joiner may stand between `before`, the last character of which comes first, and
`after`: behind a virama, or, if it parts, between letters that would join each other. -/
def joinerPlaced (before : List Char) (joiner : Char) (after : List Char) : Bool :=
  before.head?.any isVirama
    || (joiner.toNat == 0x200C && !before.isEmpty && joins .forward .dual before
      && joins .backward .dual after)

/-- Every joiner stands where it may; `before` is the text in front, the last character first. -/
def joinersPlaced (before : List Char) : List Char → Bool
  | [] => true
  | c :: cs => (!isJoiner c || joinerPlaced before c cs) && joinersPlaced (c :: before) cs

/-! ## Direction -/

/-- Whether a character makes a name one of two directions. -/
def turns (c : Char) : Bool :=
  [Direction.rightToLeft, .arabicLetter, .arabicNumber].contains (direction c)

/-- What a label that is read from the left may hold, besides letters. -/
def fitsLeft (d : Direction) : Bool :=
  [Direction.leftToRight, .europeanNumber, .europeanSeparator, .commonSeparator,
    .europeanTerminator, .neutral, .boundary, .nonspacing].contains d

/-- What a label that is read from the right may hold. -/
def fitsRight (d : Direction) : Bool :=
  [Direction.rightToLeft, .arabicLetter, .arabicNumber, .europeanNumber, .europeanSeparator,
    .commonSeparator, .europeanTerminator, .neutral, .boundary, .nonspacing].contains d

/-- Whether the last character that is no mark on another is of one of some directions. -/
def endsIn (allowed : List Direction) (ds : List Direction) : Bool :=
  (ds.reverse.dropWhile (· = .nonspacing)).head?.any allowed.contains

/-- Whether a label may stand in a name of two directions: it begins with a letter, holds nothing
of the other direction, ends in a letter or a number, and its numbers are of one kind. -/
def isDirected (cs : List Char) : Bool :=
  let ds := cs.map direction
  match ds with
  | [] => true
  | .leftToRight :: rest => rest.all fitsLeft && endsIn [.leftToRight, .europeanNumber] ds
  | .rightToLeft :: rest | .arabicLetter :: rest =>
    rest.all fitsRight
      && endsIn [.rightToLeft, .arabicLetter, .europeanNumber, .arabicNumber] ds
      && !(rest.contains .europeanNumber && rest.contains .arabicNumber)
  | _ => false

/-! ## Labels -/

def isAscii (cs : List Char) : Bool := cs.all Punycode.isBasic

/-- Nothing in the text stands for something else. -/
def isPlain (cs : List Char) : Bool :=
  cs.all (fun c => !isRefused c && image c == [c]) && normalize cs == cs

/-- What a label stands for; one that is written in ASCII has to hold characters beyond it, in the
form that names have. -/
def readLabel? (cs : List Char) : Option (List Char) :=
  match cs with
  | 'x' :: 'n' :: '-' :: '-' :: rest => do
    let ds ← Punycode.decode rest
    if !isAscii ds && isPlain ds then some ds else none
  | cs => some cs

/-- A label begins with no mark, and its joiners stand where they may. -/
def isWellFormed (cs : List Char) : Bool := !cs.head?.any isMark && joinersPlaced [] cs

/-- A label in ASCII, if it is not too long for that. -/
def labelText? (cs : List Char) : Option (List Char) :=
  if isAscii cs then some cs else (Punycode.encode cs).map ("xn--".toList ++ ·)

/-- The parts between the dots. -/
def splitDots (part : List Char) : List Char → List (List Char)
  | [] => [part.reverse]
  | c :: cs => if c = '.' then part.reverse :: splitDots [] cs else splitDots (c :: part) cs

/-! ## Names -/

/-- The labels of a name, with every character as what it stands for. -/
def labels? (cs : List Char) : Option (List (List Char)) :=
  if cs.any isRefused then none
  else (splitDots [] (normalize (cs.flatMap image))).mapM readLabel?

/-- The form of a name in which it is looked up, if it may be one. -/
def ofChars? (cs : List Char) : Option (List Char) := do
  let labels ← labels? cs
  if labels.any (·.any isForbidden) ∨ !labels.all isWellFormed
      ∨ (labels.any (·.any turns) ∧ !labels.all isDirected) then none
  else return ['.'].intercalate (← labels.mapM labelText?)

end TokenLaunch.Url.Domain
