import TokenLaunch.Power
import TokenLaunch.Text

/-!
# Types of call data

Types as an interface spells them and the types that the spellings stand for.
-/

namespace TokenLaunch.Abi

/-- A type of call data; sizes of numbers are in bits. -/
inductive Ty where
  | bool
  | int (bits : Nat)
  | uint (bits : Nat)
  | fixedBytes (size : Nat)
  | address
  | function
  | bytes
  | string
  | array (item : Ty)
  | fixedArray (item : Ty) (size : Nat)
  | tuple (items : List Ty)
deriving Repr, Inhabited

/-- Names with commas between them in round brackets; a single one keeps its comma. -/
def tupleName (names : List String) : String :=
  match names with
  | [name] => "(" ++ name ++ ",)"
  | names => "(" ++ ",".intercalate names ++ ")"

mutual
/-- The name of a type. -/
def Ty.name : Ty → String
  | .bool => "bool"
  | .int bits => "int" ++ Text.decimal bits
  | .uint bits => "uint" ++ Text.decimal bits
  | .fixedBytes size => "bytes" ++ Text.decimal size
  | .address => "address"
  | .function => "function"
  | .bytes => "bytes"
  | .string => "string"
  | .array item => item.name ++ "[]"
  | .fixedArray item size => item.name ++ "[" ++ Text.decimal size ++ "]"
  | .tuple items => tupleName (Ty.names items)

def Ty.names : List Ty → List String
  | [] => []
  | t :: ts => t.name :: Ty.names ts
end

/-! ## Spellings -/

/-- A type as it is spelled. -/
inductive Spelling where
  | root (name : String)
  | tuple (items : List Spelling)
  | array (item : Spelling) (size : Option Nat)
deriving Repr, Inhabited

/-- What is wrong with a text at the place where it stops being a spelling. -/
inductive Detail where
  /-- Something else was expected there. -/
  | unexpected
  | missing (bracket : Char)
  | zeroSize
  | hugeSize
  | tooDeep
deriving DecidableEq, Repr

def Detail.message : Detail → String
  | unexpected => ""
  | missing bracket => "expected \x60" ++ bracket.toString ++ "\x60"
  | zeroSize => "number would be zero for non-zero type"
  | hugeSize => "number too large to fit in target type"
  | tooDeep => "recursion limit exceeded"

/-- Why a text stands for no type. -/
inductive TypeFault where
  /-- The text is no spelling; what is wrong stands behind so many bytes. -/
  | misspelled (text : String) (offset : Nat) (detail : Detail)
  | badSize (name : String)
  | unknown (name : String)
deriving DecidableEq, Repr

namespace TypeFault

def blanks (n : Nat) : String := String.ofList (List.replicate n ' ')

/-- A text with a mark below one of its places.  Of a text of several lines only the first is
shown: no line end comes before a place that can be marked. -/
def pointer (text : String) (offset : Nat) : String :=
  match text.splitOn "\n" with
  | line :: _ :: _ =>
    "parse error at line 1, column " ++ Text.decimal (offset + 1) ++ "\n  |\n1 | " ++ line
      ++ "\n  | " ++ blanks offset ++ "^\n"
  | _ => text ++ "\n" ++ blanks offset ++ "^\n"

def message : TypeFault → String
  | misspelled text offset detail =>
    "parser error:\n" ++ pointer text offset ++ detail.message
  | badSize name => "invalid size for type: " ++ name
  | unknown name => "invalid type string: " ++ name

end TypeFault

def isNameStart (c : Char) : Bool := c.isAlpha || c == '_' || c == '$'

def isNamePart (c : Char) : Bool := isNameStart c || c.isDigit

/-- A name of a parameter or of an item. -/
def isIdentifier (s : String) : Bool :=
  match s.toList with
  | [] => false
  | c :: cs => isNameStart c && cs.all isNamePart

/-- The name at the head of the text and what follows it. -/
def readName : List Char → Option (List Char × List Char)
  | [] => none
  | c :: cs =>
    if isNameStart c then some (c :: cs.takeWhile isNamePart, cs.dropWhile isNamePart) else none

/-- The full name of a type of numbers: a size that is left out is 256. -/
def wide (name : String) : String :=
  if name = "uint" then "uint256" else if name = "int" then "int256" else name

/-! ### Reading -/

/-- Why reading stopped. -/
structure ReadFault where
  /-- What was not read. -/
  rest : List Char
  detail : Detail
  /-- No shorter list of items is tried. -/
  isFinal : Bool
deriving Repr

/-- The root of a type.  A name with a point in it is that of an enumeration, which is a number of
one byte. -/
def readRoot (cs : List Char) : Except ReadFault (Spelling × List Char) :=
  match readName cs with
  | none => .error ⟨cs, .unexpected, false⟩
  | some (_, '.' :: rest) =>
    .ok (.root "uint8", match readName rest with
      | some (_, rest) => rest
      | none => rest)
  | some (name, rest) => .ok (.root (wide (String.ofList name)), rest)

/-- The size in the brackets of an array, if there is one. -/
def readSize (cs : List Char) : Except ReadFault (Option Nat × List Char) :=
  let digits := cs.takeWhile Char.isDigit
  let rest := cs.dropWhile Char.isDigit
  let size := Text.number digits
  if digits.isEmpty then .ok (none, rest)
  else if size = 0 then .error ⟨rest, .zeroSize, false⟩
  else if size < twoTo 64 then .ok (some size, rest)
  else .error ⟨rest, .hugeSize, false⟩

/-- What follows a bracket that has to be there. -/
def readClosing (bracket : Char) (cs : List Char) : Except ReadFault (List Char) :=
  match cs with
  | c :: rest => if c = bracket then .ok rest else .error ⟨cs, .missing bracket, true⟩
  | [] => .error ⟨cs, .missing bracket, true⟩

/-- The brackets of arrays after a type, the innermost first.  Brackets that cannot be read end the
type, unless they are the first. -/
def readSizes (item : Spelling) (isFirst : Bool) :
    Nat → List Char → Except ReadFault (Spelling × List Char)
  | 0, cs => .ok (item, cs)
  | fuel + 1, cs =>
    match cs with
    | '[' :: rest =>
      match readSize rest with
      | .error fault => if isFirst then .error fault else .ok (item, cs)
      | .ok (size, rest) => do
        readSizes (.array item size) false fuel (← readClosing ']' rest)
    | cs => .ok (item, cs)

def skipBlanks (cs : List Char) : List Char := cs.dropWhile fun c => c == ' ' || c == '\t'

/-- As many tuples may not stand inside one another. -/
def maxTuples : Nat := 80

mutual
/-- The type at the head of a text inside `depth` tuples. -/
def readSpelling : Nat → Nat → List Char → Except ReadFault (Spelling × List Char)
  | 0, _, cs => .error ⟨cs, .unexpected, true⟩
  | fuel + 1, depth, cs => do
    let (item, rest) ←
      match cs with
      | '(' :: rest => readTuple fuel (depth + 1) rest
      | 't' :: 'u' :: 'p' :: 'l' :: 'e' :: '(' :: rest => readTuple fuel (depth + 1) rest
      | cs => readRoot cs
    readSizes item true (rest.length + 1) rest

/-- The items of a tuple and its closing bracket; a comma may stand before the bracket. -/
def readTuple : Nat → Nat → List Char → Except ReadFault (Spelling × List Char)
  | 0, _, cs => .error ⟨cs, .unexpected, true⟩
  | fuel + 1, depth, cs =>
    if maxTuples ≤ depth then .error ⟨cs, .tooDeep, true⟩
    else
      match cs with
      | ')' :: rest => .ok (.tuple [], rest)
      | cs => do
        let (item, rest) ← readSpelling fuel depth cs
        let (items, rest) ← readItems fuel depth rest
        let rest ← readClosing ')' (if rest.head? = some ',' then rest.drop 1 else rest)
        return (.tuple (item :: items), rest)

/-- The items behind the first, up to a comma with no item behind it. -/
def readItems : Nat → Nat → List Char → Except ReadFault (List Spelling × List Char)
  | 0, _, cs => .error ⟨cs, .unexpected, true⟩
  | fuel + 1, depth, cs =>
    match cs with
    | ',' :: rest =>
      match readSpelling fuel depth (skipBlanks rest) with
      | .ok (item, rest) => do
        let (items, rest) ← readItems fuel depth rest
        return (item :: items, rest)
      | .error fault => if fault.isFinal then .error fault else .ok ([], cs)
    | cs => .ok ([], cs)
end

/-- The spelling that a whole text is. -/
def Spelling.parse (s : String) : Except TypeFault Spelling :=
  let cs := s.toList
  let fault (rest : List Char) (detail : Detail) : TypeFault :=
    .misspelled s (s.utf8ByteSize - (String.ofList rest).utf8ByteSize) detail
  match readSpelling (3 * cs.length + 3) 0 cs with
  | .ok (t, []) => .ok t
  | .ok (_, rest) => .error (fault rest .unexpected)
  | .error f => .error (fault f.rest f.detail)

/-- Whether a text is a spelling. -/
def isSpelling (s : String) : Bool := (Spelling.parse s).toBool

/-- The size after a name. -/
def sizeAfter (lead : String) (name : String) : Option (Option Nat) :=
  if lead.toList.isPrefixOf name.toList then some (Text.number? (name.toList.drop lead.length))
  else none

/-- The type of a root. -/
def Ty.ofRoot (name : String) : Except TypeFault Ty :=
  match name with
  | "address" => .ok .address
  | "function" => .ok .function
  | "bool" => .ok .bool
  | "string" => .ok .string
  | "bytes" => .ok .bytes
  | name =>
    match sizeAfter "bytes" name, sizeAfter "uint" name, sizeAfter "int" name with
    | some size, _, _ =>
      match size with
      | some n => if 0 < n ∧ n ≤ 32 then .ok (.fixedBytes n) else .error (.badSize name)
      | none => .error (.badSize name)
    | _, some size, _ =>
      match size with
      | some n => if 0 < n ∧ n ≤ 256 ∧ n % 8 = 0 then .ok (.uint n) else .error (.badSize name)
      | none => .error (.badSize name)
    | _, _, some size =>
      match size with
      | some n => if 0 < n ∧ n ≤ 256 ∧ n % 8 = 0 then .ok (.int n) else .error (.badSize name)
      | none => .error (.badSize name)
    | _, _, _ => .error (.unknown name)

mutual
/-- The type that a spelling stands for. -/
def Spelling.resolve : Spelling → Except TypeFault Ty
  | .root name => Ty.ofRoot name
  | .tuple items => (Spelling.resolveAll items).map .tuple
  | .array item none => item.resolve.map .array
  | .array item (some size) => item.resolve.map (.fixedArray · size)

def Spelling.resolveAll : List Spelling → Except TypeFault (List Ty)
  | [] => .ok []
  | s :: ss => do
    let t ← s.resolve
    let ts ← Spelling.resolveAll ss
    return t :: ts
end

/-- The arrays around the root of a spelling, put around another type. -/
def Spelling.wrap (root : Ty) : Spelling → Ty
  | .array item none => .array (item.wrap root)
  | .array item (some size) => .fixedArray (item.wrap root) size
  | _ => root

end TokenLaunch.Abi
