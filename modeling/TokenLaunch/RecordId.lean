import TokenLaunch.Hex

/-!
# Record identifiers

Numbers of 128 bits in their hexadecimal groups.
-/

namespace TokenLaunch

abbrev RecordId := BitVec 128

namespace RecordId

/-- The number of thirty-two digits. -/
def ofDigits? (cs : List Char) : Option RecordId := do
  if cs.length = 32 then
    let digits ← cs.mapM Hex.value?
    some (BitVec.ofNat 128 (digits.foldl (fun n d => 16 * n + d) 0))
  else none

/-- The number of thirty-two digits in groups of 8, 4, 4, 4 and 12 with hyphens between them. -/
def ofGroups? (cs : List Char) : Option RecordId :=
  if cs.length = 36 ∧ cs[8]? = some '-' ∧ cs[13]? = some '-' ∧ cs[18]? = some '-'
      ∧ cs[23]? = some '-' then
    ofDigits? (cs.take 8 ++ (cs.drop 9).take 4 ++ (cs.drop 14).take 4 ++ (cs.drop 19).take 4
      ++ cs.drop 24)
  else none

/-- The name of the kind of identifiers, which may be written in letters of either case. -/
def kind : String := "urn:uuid:"

/-- Digits alone, groups, groups in braces, or groups after the name of their kind. -/
def ofText? (s : String) : Option RecordId :=
  match s.toList with
  | '\x7b' :: cs =>
    match cs.reverse with
    | '\x7d' :: body => ofGroups? body.reverse
    | _ => none
  | cs =>
    if Text.sameWord (String.ofList (cs.take kind.length)) kind then ofGroups? (cs.drop kind.length)
    else if cs.length = 32 then ofDigits? cs
    else ofGroups? cs

/-- The last `count` digits, the highest first. -/
def digits : Nat → Nat → List Char
  | 0, _ => []
  | count + 1, n => digits count (n / 16) ++ [Hex.digit n]

def chars (id : RecordId) : List Char :=
  let ds := digits 32 id.toNat
  ds.take 8 ++ '-' :: (ds.drop 8).take 4 ++ '-' :: (ds.drop 12).take 4 ++ '-' :: (ds.drop 16).take 4
    ++ '-' :: ds.drop 20

/-- Groups of lower-case digits. -/
def text (id : RecordId) : String := String.ofList id.chars

end RecordId

end TokenLaunch
