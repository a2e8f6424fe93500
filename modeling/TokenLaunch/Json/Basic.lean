import TokenLaunch.Binary64
import TokenLaunch.Hex

/-!
# JSON values

Values and their compact and indented texts.
-/

namespace TokenLaunch

namespace Json

/-- Integers of one word stay integers, every other number is a floating-point one. -/
inductive Number where
  | natural (n : Nat)
  /-- The number `-n`. -/
  | negative (n : Nat)
  | float (x : Binary64)
deriving DecidableEq, Repr

end Json

/-- A JSON value. -/
inductive Json where
  | null
  | bool (b : Bool)
  | num (n : Json.Number)
  | str (s : String)
  | arr (items : List Json)
  | obj (members : List (String × Json))
deriving Repr, Inhabited

namespace Json

def nat (n : Nat) : Json := .num (.natural n)

def ofOption {α : Type} (f : α → Json) : Option α → Json
  | none => .null
  | some a => f a

/-- The value of the first member of a name; null where there is none. -/
def member (j : Json) (name : String) : Json :=
  match j with
  | .obj members => (members.lookup name).getD .null
  | _ => .null

/-! ## Numbers and texts -/

def Number.text : Number → String
  | .natural n => Text.decimal n
  | .negative n => "-" ++ Text.decimal n
  | .float x => x.text

/-- A character inside quotes: the two that have a meaning there and the control characters are
escaped. -/
def escape (c : Char) : List Char :=
  if c = '"' then ['\\', '"']
  else if c = '\\' then ['\\', '\\']
  else if c = '\x08' then ['\\', 'b']
  else if c = '\x0c' then ['\\', 'f']
  else if c = '\n' then ['\\', 'n']
  else if c = '\r' then ['\\', 'r']
  else if c = '\t' then ['\\', 't']
  else if c.toNat < 32 then ['\\', 'u', '0', '0', Hex.digit (c.toNat / 16), Hex.digit c.toNat]
  else [c]

def quote (s : String) : List Char := '"' :: s.toList.flatMap escape ++ ['"']

/-! ## The compact text -/

mutual
/-- The text without any white space between its parts. -/
def chars : Json → List Char
  | .null => "null".toList
  | .bool true => "true".toList
  | .bool false => "false".toList
  | .num n => n.text.toList
  | .str s => quote s
  | .arr [] => ['[', ']']
  | .arr (v :: vs) => '[' :: chars v ++ itemChars vs
  | .obj [] => ['\x7b', '\x7d']
  | .obj (m :: ms) => '\x7b' :: quote m.1 ++ ':' :: chars m.2 ++ memberChars ms

/-- The items after the first, and the bracket. -/
def itemChars : List Json → List Char
  | [] => [']']
  | v :: vs => ',' :: chars v ++ itemChars vs

/-- The members after the first, and the brace. -/
def memberChars : List (String × Json) → List Char
  | [] => ['\x7d']
  | m :: ms => ',' :: quote m.1 ++ ':' :: chars m.2 ++ memberChars ms
end

def compact (j : Json) : String := String.ofList j.chars

/-! ## The indented text -/

def newline (depth : Nat) : List Char := '\n' :: List.replicate (2 * depth) ' '

mutual
/-- The text with every item and member on a line of its own, two blanks deeper than its
container. -/
def prettyChars (depth : Nat) : Json → List Char
  | .null => "null".toList
  | .bool true => "true".toList
  | .bool false => "false".toList
  | .num n => n.text.toList
  | .str s => quote s
  | .arr [] => ['[', ']']
  | .arr (v :: vs) =>
    '[' :: newline (depth + 1) ++ prettyChars (depth + 1) v ++ prettyItems depth vs
  | .obj [] => ['\x7b', '\x7d']
  | .obj (m :: ms) =>
    '\x7b' :: newline (depth + 1) ++ quote m.1 ++ ':' :: ' ' :: prettyChars (depth + 1) m.2
      ++ prettyMembers depth ms

def prettyItems (depth : Nat) : List Json → List Char
  | [] => newline depth ++ [']']
  | v :: vs => ',' :: newline (depth + 1) ++ prettyChars (depth + 1) v ++ prettyItems depth vs

def prettyMembers (depth : Nat) : List (String × Json) → List Char
  | [] => newline depth ++ ['\x7d']
  | m :: ms =>
    ',' :: newline (depth + 1) ++ quote m.1 ++ ':' :: ' ' :: prettyChars (depth + 1) m.2
      ++ prettyMembers depth ms
end

def pretty (j : Json) : String := String.ofList (j.prettyChars 0)

end Json

end TokenLaunch
