import TokenLaunch.Json.Basic

/-!
# What a JSON text holds

A text is read once from left to right into a tree that keeps everything up to the place where the
text stops being JSON.  Whoever wants a value of some shape walks the tree in the order of the
text, and so meets a break or a wrong shape, whichever comes first.
-/

namespace TokenLaunch.Json

/-- A number as it is written. -/
structure Numeral where
  negative : Bool
  whole : List Nat
  fraction : Option (List Nat)
  exponent : Option Int
deriving DecidableEq, Repr

/-- The tree of a text.  A text or a name in quotes is `none` when an escape in it stands for half
of a character. -/
inductive Reading where
  | null
  | bool (b : Bool)
  | num (n : Numeral)
  | str (s : Option String)
  | arr (items : List Reading)
  | obj (members : List (Option String × Reading))
  /-- Here the text stops being JSON. -/
  | broken
deriving Repr, Inhabited

/-! ## White space and digits -/

def isSpace (c : Char) : Bool := c == ' ' || c == '\n' || c == '\t' || c == '\r'

def skipSpace (cs : List Char) : List Char := cs.dropWhile isSpace

/-- The digits at the head of the text and what follows them. -/
def takeDigits : List Char → List Nat × List Char
  | [] => ([], [])
  | c :: cs =>
    if c.isDigit then (Text.digitValue c :: (takeDigits cs).1, (takeDigits cs).2) else ([], c :: cs)

def ofDigits (ds : List Nat) : Nat := ds.foldl (fun n d => 10 * n + d) 0

/-! ## Numbers -/

/-- The digits before the point: a zero stands alone. -/
def readWhole (cs : List Char) : Option (List Nat × List Char) :=
  match takeDigits cs with
  | ([], _) => none
  | (0 :: _ :: _, _) => none
  | (ds, rest) => some (ds, rest)

/-- The digits after a point, if there is one. -/
def readFraction : List Char → Option (Option (List Nat) × List Char)
  | '.' :: cs =>
    match takeDigits cs with
    | ([], _) => none
    | (ds, rest) => some (some ds, rest)
  | cs => some (none, cs)

/-- The digits of an exponent. -/
def readPower (negative : Bool) (cs : List Char) : Option (Option Int × List Char) :=
  match takeDigits cs with
  | ([], _) => none
  | (ds, rest) => some (some (if negative then -(ofDigits ds : Int) else ofDigits ds), rest)

/-- The exponent, if there is one. -/
def readExponent : List Char → Option (Option Int × List Char)
  | c :: cs =>
    if c = 'e' ∨ c = 'E' then
      match cs with
      | '+' :: cs => readPower false cs
      | '-' :: cs => readPower true cs
      | cs => readPower false cs
    else some (none, c :: cs)
  | [] => some (none, [])

def readUnsigned (negative : Bool) (cs : List Char) : Option (Numeral × List Char) := do
  let (whole, cs) ← readWhole cs
  let (fraction, cs) ← readFraction cs
  let (exponent, cs) ← readExponent cs
  some (⟨negative, whole, fraction, exponent⟩, cs)

def readNumeral : List Char → Option (Numeral × List Char)
  | '-' :: cs => readUnsigned true cs
  | cs => readUnsigned false cs

/-! ## Texts in quotes -/

/-- One character of a text in quotes, or half of one. -/
inductive Piece where
  | whole (c : Char)
  | half (unit : Nat)
deriving DecidableEq, Repr

/-- The piece that a unit of sixteen bits stands for. -/
def Piece.ofUnit (u : Nat) : Piece :=
  if 0xD800 ≤ u ∧ u ≤ 0xDFFF then .half u else .whole (Char.ofNat u)

def readUnit (a b c d : Char) : Option Nat := do
  let a ← Hex.value? a
  let b ← Hex.value? b
  let c ← Hex.value? c
  let d ← Hex.value? d
  some (((a * 16 + b) * 16 + c) * 16 + d)

/-- What a backslash and one character stand for. -/
def escaped : Char → Option Char
  | '"' => some '"'
  | '\\' => some '\\'
  | '/' => some '/'
  | 'b' => some '\x08'
  | 'f' => some '\x0c'
  | 'n' => some '\n'
  | 'r' => some '\r'
  | 't' => some '\t'
  | _ => none

/-- The pieces up to the closing quote and what follows it. -/
def readPieces : List Char → Option (List Piece × List Char)
  | [] => none
  | '"' :: rest => some ([], rest)
  | '\\' :: 'u' :: a :: b :: c :: d :: rest => do
    let u ← readUnit a b c d
    let (ps, rest) ← readPieces rest
    some (.ofUnit u :: ps, rest)
  | '\\' :: e :: rest => do
    let c ← escaped e
    let (ps, rest) ← readPieces rest
    some (.whole c :: ps, rest)
  | c :: rest =>
    if c = '\\' ∨ c.toNat < 32 then none
    else do
      let (ps, rest) ← readPieces rest
      some (.whole c :: ps, rest)

/-- The character of a high half and a low half. -/
def joinHalves (high low : Nat) : Option Char :=
  if high < 0xDC00 ∧ 0xDC00 ≤ low then
    some (Char.ofNat (0x10000 + (high - 0xD800) * 0x400 + (low - 0xDC00)))
  else none

/-- The text of the pieces; none when a half has no other half. -/
def joinPieces : List Piece → Option (List Char)
  | [] => some []
  | .whole c :: ps => (joinPieces ps).map (c :: ·)
  | .half high :: .half low :: ps => do
    let c ← joinHalves high low
    (joinPieces ps).map (c :: ·)
  | .half _ :: _ => none

/-- The text up to the closing quote and what follows it. -/
def readText (cs : List Char) : Option (Option String × List Char) :=
  (readPieces cs).map fun (ps, rest) => ((joinPieces ps).map String.ofList, rest)

/-! ## Values -/

mutual
/-- The value at the head of the text and what follows it; nothing follows a break. -/
def readValue : Nat → List Char → Reading × List Char
  | 0, _ => (.broken, [])
  | fuel + 1, cs =>
    match skipSpace cs with
    | 'n' :: 'u' :: 'l' :: 'l' :: rest => (.null, rest)
    | 't' :: 'r' :: 'u' :: 'e' :: rest => (.bool true, rest)
    | 'f' :: 'a' :: 'l' :: 's' :: 'e' :: rest => (.bool false, rest)
    | '"' :: rest =>
      match readText rest with
      | none => (.broken, [])
      | some (s, rest) => (.str s, rest)
    | '[' :: rest =>
      match skipSpace rest with
      | ']' :: rest => (.arr [], rest)
      | rest =>
        let (items, rest) := readItems fuel rest
        (.arr items, rest)
    | '\x7b' :: rest =>
      match skipSpace rest with
      | '\x7d' :: rest => (.obj [], rest)
      | rest =>
        let (members, rest) := readMembers fuel rest
        (.obj members, rest)
    | rest =>
      match readNumeral rest with
      | none => (.broken, [])
      | some (n, rest) => (.num n, rest)

/-- One item or more, and the bracket. -/
def readItems : Nat → List Char → List Reading × List Char
  | 0, _ => ([.broken], [])
  | fuel + 1, cs =>
    let (item, rest) := readValue fuel cs
    match skipSpace rest with
    | ']' :: rest => ([item], rest)
    | ',' :: rest =>
      let (items, rest) := readItems fuel rest
      (item :: items, rest)
    | _ => ([item, .broken], [])

/-- One member or more, and the brace. -/
def readMembers : Nat → List Char → List (Option String × Reading) × List Char
  | 0, _ => ([(none, .broken)], [])
  | fuel + 1, cs =>
    match skipSpace cs with
    | '"' :: rest =>
      match readText rest with
      | none => ([(none, .broken)], [])
      | some (name, rest) =>
        match skipSpace rest with
        | ':' :: rest =>
          let (value, rest) := readValue fuel rest
          match skipSpace rest with
          | '\x7d' :: rest => ([(name, value)], rest)
          | ',' :: rest =>
            let (members, rest) := readMembers fuel rest
            ((name, value) :: members, rest)
          | _ => ([(name, value), (none, .broken)], [])
        | _ => ([(name, .broken)], [])
    | _ => ([(none, .broken)], [])
end

/-- A text read: its tree, and whether anything but white space follows the value. -/
structure Document where
  root : Reading
  trailing : Bool
deriving Repr

def Document.ofText (s : String) : Document :=
  let cs := s.toList
  let (root, rest) := readValue (2 * cs.length + 2) cs
  ⟨root, !(skipSpace rest).isEmpty⟩

end TokenLaunch.Json
