/-!
# Text

White space, case and lines of the texts that a launch reads and writes.
-/

namespace TokenLaunch.Text

/-! ## White space -/

/-- The characters with the Unicode property `White_Space`. -/
def isBlank (c : Char) : Bool :=
  let n := c.toNat
  (9 ≤ n && n ≤ 13) || n == 0x20 || n == 0x85 || n == 0xA0 || n == 0x1680
    || (0x2000 ≤ n && n ≤ 0x200A) || n == 0x2028 || n == 0x2029 || n == 0x202F
    || n == 0x205F || n == 0x3000

def trimLeft (cs : List Char) : List Char := cs.dropWhile isBlank

def trimRight (cs : List Char) : List Char := (cs.reverse.dropWhile isBlank).reverse

/-- The text without the blanks at its two ends. -/
def trim (s : String) : String := String.ofList (trimRight (trimLeft s.toList))

/-- Nothing but blanks. -/
def isBlankText (s : String) : Bool := s.toList.all isBlank

/-! ## Case -/

/-- Letters of ASCII lowered, all else kept. -/
def lower (s : String) : String := s.map Char.toLower

/-- Letters of ASCII raised, all else kept. -/
def upper (s : String) : String := s.map Char.toUpper

/-- Equality up to the case of ASCII letters. -/
def sameWord (s t : String) : Bool := lower s == lower t

/-! ## Parts -/

/-- Whether `needle` stands somewhere in `hay`. -/
def occursIn (needle : List Char) : List Char → Bool
  | [] => needle.isEmpty
  | c :: hay => needle.isPrefixOf (c :: hay) || occursIn needle hay

def contains (s needle : String) : Bool := occursIn needle.toList s.toList

/-- The text without every trailing copy of `c`. -/
def dropTrailing (c : Char) (s : String) : String :=
  String.ofList (s.toList.reverse.dropWhile (· == c)).reverse

/-! ## Lines -/

/-- A carriage return that ends a line belongs to the line end. -/
def dropReturn : List Char → List Char
  | '\r' :: rest => rest
  | cs => cs

/-- The lines of a text, `line` being what is already read of the first, last character first. -/
def linesFrom (line : List Char) : List Char → List String
  | [] => if line.isEmpty then [] else [String.ofList line.reverse]
  | c :: rest =>
    if c = '\n' then String.ofList (dropReturn line).reverse :: linesFrom [] rest
    else linesFrom (c :: line) rest

/-- The lines of a text: each ends at a line feed, with or without a carriage return before it,
or at the end of the text, and a text that ends in a line feed has no empty last line. -/
def lines (s : String) : List String := linesFrom [] s.toList

/-! ## Numbers -/

/-- The text of a number in decimal digits. -/
def decimal (n : Nat) : String := String.ofList (Nat.toDigits 10 n)

def digitValue (c : Char) : Nat := c.toNat - '0'.toNat

/-- The number that decimal digits stand for. -/
def number (cs : List Char) : Nat := cs.foldl (fun n c => 10 * n + digitValue c) 0

/-- The number of a text of decimal digits; none when there are none, or something else. -/
def number? (cs : List Char) : Option Nat :=
  if cs.isEmpty ∨ !cs.all Char.isDigit then none else some (number cs)

end TokenLaunch.Text
