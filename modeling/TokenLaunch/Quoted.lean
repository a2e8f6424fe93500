import TokenLaunch.Text
import TokenLaunch.Unicode.Visible

/-!
# Quoted text

Texts between quotes in messages, with the characters that cannot be seen in other spellings.
-/

namespace TokenLaunch.Quoted

/-- A character between quotes, `quotes` being those that need a backslash there. -/
def escape (quotes : List Char) (c : Char) : List Char :=
  if c = '\x00' then ['\\', '0']
  else if c = '\t' then ['\\', 't']
  else if c = '\n' then ['\\', 'n']
  else if c = '\r' then ['\\', 'r']
  else if c = '\\' ∨ c ∈ quotes then ['\\', c]
  else if Unicode.isVisible c then [c]
  else '\\' :: 'u' :: '\x7b' :: Nat.toDigits 16 c.toNat ++ ['\x7d']

/-- A character between single quotes. -/
def char (c : Char) : String := String.ofList ('\x27' :: escape ['\x27'] c ++ ['\x27'])

/-- The name of a file between double quotes. -/
def path (s : String) : String :=
  String.ofList ('"' :: s.toList.flatMap (escape ['\x27', '"']) ++ ['"'])

end TokenLaunch.Quoted
