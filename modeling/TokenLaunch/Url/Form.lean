import TokenLaunch.Url.Percent

/-!
# Form encoding

Pairs of names and values as they stand in queries and in the bodies of forms.
-/

namespace TokenLaunch.Url

/-- A character of a form: letters, digits and four marks stand for themselves, a blank is a plus
sign, and every other character is encoded. -/
def formChar (c : Char) : List Char :=
  if c.isAlphanum || ['*', '-', '.', '_'].contains c then [c]
  else if c = ' ' then ['+']
  else percentChar c

def formText (s : String) : List Char := s.toList.flatMap formChar

def formPair (p : String × String) : List Char := formText p.1 ++ '=' :: formText p.2

/-- Pairs in order, with an ampersand between two. -/
def form (pairs : List (String × String)) : String :=
  String.ofList (['&'].intercalate (pairs.map formPair))

end TokenLaunch.Url
