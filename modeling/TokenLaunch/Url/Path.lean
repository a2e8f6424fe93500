import TokenLaunch.Url.Percent

/-!
# Paths

Where a resource is found on its host: segments with slashes before them.  A segment of one dot
stays where it is, one of two dots goes up, and nothing goes up beyond the letter of a drive.
-/

namespace TokenLaunch.Url

/-! ## Characters -/

/-- Tabulators and line ends, which count nowhere. -/
def isIgnored (c : Char) : Bool := c == '\t' || c == '\n' || c == '\r'

/-- The characters that count. -/
def counted (cs : List Char) : List Char := cs.filter (!isIgnored ·)

def isSlash (c : Char) : Bool := c == '/' || c == '\\'

/-- Where a resource is found on its host, or what names it without a host. -/
inductive Path where
  | segments (ss : List String)
  | name (s : String)
deriving DecidableEq, Repr

namespace Path

def text : Path → String
  | segments ss => String.join (ss.map ("/" ++ ·))
  | name s => s

/-! ## Drives -/

def isDriveMark (c : Char) : Bool := c == ':' || c == '|'

/-- A letter with a colon or a bar after it. -/
def isDrive : List Char → Bool
  | [a, mark] => a.isAlpha && isDriveMark mark
  | _ => false

/-- Nothing but a drive stands before the end or a backslash. -/
def beginsWithDrive : List Char → Bool
  | a :: mark :: rest => a.isAlpha && isDriveMark mark && rest.head?.all (· == '\\')
  | _ => false

/-- A drive with a colon, and what characters that do not count part from it. -/
def splitDrive (cs : List Char) : Option (List Char × List Char) :=
  match cs.dropWhile isIgnored with
  | a :: rest =>
    match rest.dropWhile isIgnored with
    | ':' :: c :: rest =>
      if a.isAlpha && isIgnored c && !(counted rest).isEmpty then some ([a, ':'], rest) else none
    | _ => none
  | [] => none

/-! ## Segments -/

/-- The segments between the slashes. -/
def split (special : Bool) (part : List Char) : List Char → List (List Char)
  | [] => [part.reverse]
  | c :: cs =>
    if c = '/' ∨ (special ∧ c = '\\') then part.reverse :: split special [] cs
    else split special (c :: part) cs

/-- A segment with its encoded dots as dots. -/
def decodeDots : List Char → List Char
  | '%' :: '2' :: 'e' :: rest => '.' :: decodeDots rest
  | '%' :: '2' :: 'E' :: rest => '.' :: decodeDots rest
  | c :: rest => c :: decodeDots rest
  | [] => []

/-- A way through segments. -/
structure Way where
  /-- The segments so far, the last one first. -/
  done : List (List Char)
  /-- The way begins on a drive. -/
  onDrive : Bool

namespace Way

/-- At the root. -/
def root : Way := ⟨[], false⟩

/-- Leaves the last segment, unless it is a drive. -/
def up (w : Way) : Way :=
  match w.done with
  | s :: ss => if beginsWithDrive s then w else { w with done := ss }
  | [] => w

/-- Follows a segment that names something. -/
def enter (isFile : Bool) (w : Way) (s : List Char) : Way :=
  let name := counted s
  if isFile && w.done.isEmpty then
    if isDrive name then ⟨[name.take 1 ++ [':']], true⟩
    else
      match splitDrive s with
      | some (drive, rest) => { w with done := [percentEncode inPath (counted rest), drive] }
      | none => { w with done := [percentEncode inPath name] }
  else { w with done := percentEncode inPath name :: w.done }

/-- Follows segments; dots at the end leave an empty one. -/
def follow (isFile : Bool) (w : Way) : List (List Char) → Way
  | [] => w
  | s :: ss =>
    let close (w : Way) : Way := if ss.isEmpty then { w with done := [] :: w.done } else w
    match decodeDots (counted s) with
    | ['.'] => follow isFile (close w) ss
    | ['.', '.'] => follow isFile (close w.up) ss
    | _ => follow isFile (w.enter isFile s) ss

/-- The path of a way. -/
def path (w : Way) : Path := .segments (w.done.reverse.map String.ofList)

/-- The path of a way to a file, which begins with nothing empty. -/
def filePath (w : Way) : Path :=
  match w.done.reverse.dropWhile List.isEmpty with
  | [] => .segments [""]
  | ss => .segments (ss.map String.ofList)

end Way

/-- The path of the text behind the first slash. -/
def ofChars (special : Bool) (cs : List Char) : Path :=
  (Way.root.follow false (split special [] cs)).path

/-- The path of the text behind the first slash to a file, and whether it begins on a drive. -/
def ofFile (cs : List Char) : Path × Bool :=
  let way := Way.root.follow true (split true [] cs)
  (way.filePath, way.onDrive)

end Path

end TokenLaunch.Url
