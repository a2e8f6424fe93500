import TokenLaunch.Hex
import TokenLaunch.Unicode.Alphanumeric

/-!
# Patterns

Regular expressions, as far as it counts whether a text is one: groups and their flags, repetitions,
classes in brackets and escapes.
-/

namespace TokenLaunch.Pattern

/-! ## Escapes -/

/-- What an escape stands for. -/
inductive Escape where
  /-- A character. -/
  | char (n : Nat)
  /-- A class of characters; `isOpen` if it holds all but some. -/
  | class (isOpen : Bool)
  /-- A place in a text. -/
  | place
  /-- The end of a word, or no such end. -/
  | wordEnd
deriving DecidableEq, Repr

/-- The number of so many hexadecimal digits and what follows them. -/
def readHex (count : Nat) (cs : List Char) : Option (Escape × List Char) := do
  let digits := cs.take count
  if digits.length = count then
    let n := (← digits.mapM Hex.value?).foldl (fun n d => 16 * n + d) 0
    if n.isValidChar then some (.char n, cs.drop count) else none
  else none

/-- The general categories that are named by one letter. -/
def categories : List Char := "CLMNPSZclmnpsz".toList

/-- What stands behind a backslash, and what follows it. -/
def readEscape : List Char → Option (Escape × List Char)
  | [] => none
  | 'x' :: cs => readHex 2 cs
  | 'u' :: cs => readHex 4 cs
  | 'U' :: cs => readHex 8 cs
  | 'p' :: c :: cs => if categories.contains c then some (.class false, cs) else none
  | 'P' :: c :: cs => if categories.contains c then some (.class true, cs) else none
  | c :: cs =>
    if ['d', 's', 'w'].contains c then some (.class false, cs)
    else if ['D', 'S', 'W'].contains c then some (.class true, cs)
    else if ['A', 'z'].contains c then some (.place, cs)
    else if ['b', 'B', '<', '>'].contains c then some (.wordEnd, cs)
    else if ['a', 'f', 't', 'n', 'r', 'v'].contains c then some (.char 0, cs)
    else if c.isAlphanum || 0x7F < c.toNat then none
    else some (.char c.toNat, cs)

/-! ## Classes -/

/-- A character or a class inside brackets, a character by its number. -/
def readMember (isUnicode : Bool) : List Char → Option (Option Nat × List Char)
  | [] => none
  | '\\' :: cs => do
    match ← readEscape cs with
    | (.char n, rest) => some (some n, rest)
    | (.class isOpen, rest) => if isOpen && !isUnicode then none else some (none, rest)
    | _ => none
  | c :: cs => some (some c.toNat, cs)

/-- A member or a range of two characters. -/
def readRange (isUnicode : Bool) (cs : List Char) : Option (List Char) := do
  let (first, rest) ← readMember isUnicode cs
  match rest with
  | [] => none
  | '-' :: ']' :: _ => some rest
  | '-' :: '-' :: _ => some rest
  | '-' :: more => do
    let (last, rest) ← readMember isUnicode more
    if (← first) ≤ (← last) then some rest else none
  | rest => some rest

/-- What follows the bracket that opens a class and what stands there for itself. -/
def openClass (isUnicode : Bool) (cs : List Char) : Option (List Char) :=
  let isOpen := cs.head? = some '^'
  let inside := if isOpen then cs.drop 1 else cs
  let rest := inside.dropWhile (· == '-')
  if isOpen && !isUnicode then none
  else
    match rest with
    | ']' :: more => some (if inside.length = rest.length then more else rest)
    | rest => some rest

/-- The names of classes between colons. -/
def classNames : List String :=
  ["alnum", "alpha", "ascii", "blank", "cntrl", "digit", "graph", "lower", "print", "punct",
    "space", "upper", "word", "xdigit"]

/-- What follows a class between colons, the bracket that opens it being read. -/
def afterName (cs : List Char) : Option (List Char) :=
  match cs with
  | ':' :: cs =>
    let cs := if cs.head? = some '^' then cs.drop 1 else cs
    let name := cs.takeWhile (· != ':')
    match cs.drop name.length with
    | ':' :: ']' :: rest => if classNames.contains (String.ofList name) then some rest else none
    | _ => none
  | _ => none

/-- What follows the brackets of a class, `depth` of which are open. -/
def readClass (isUnicode : Bool) : Nat → Nat → List Char → Option (List Char)
  | 0, _, _ => none
  | fuel + 1, depth, cs =>
    match cs with
    | [] => none
    | '[' :: cs =>
      match afterName cs with
      | some rest => readClass isUnicode fuel depth rest
      | none => do readClass isUnicode fuel (depth + 1) (← openClass isUnicode cs)
    | ']' :: rest => if depth ≤ 1 then some rest else readClass isUnicode fuel (depth - 1) rest
    | '&' :: '&' :: rest => readClass isUnicode fuel depth rest
    | '-' :: '-' :: rest => readClass isUnicode fuel depth rest
    | '~' :: '~' :: rest => readClass isUnicode fuel depth rest
    | cs => do readClass isUnicode fuel depth (← readRange isUnicode cs)

/-! ## Groups -/

/-- Whether a name may begin with a character. -/
def beginsName (c : Char) : Bool :=
  c == '_' || (Unicode.isAlphanumeric c && !c.isDigit)

def continuesName (c : Char) : Bool :=
  ['_', '.', '[', ']'].contains c || Unicode.isAlphanumeric c

/-- The name up to the closing bracket and what follows it. -/
def readName (cs : List Char) : Option (List Char × List Char) :=
  let name := cs.takeWhile (· != '>')
  match cs.drop name.length with
  | '>' :: rest =>
    if name.head?.any beginsName && name.all continuesName then some (name, rest) else none
  | _ => none

/-- Whether letters are flags, of which each comes once and some may be taken back. -/
def areFlags (cs : List Char) : Bool :=
  let letters := cs.filter (· != '-')
  letters.all ['i', 'm', 's', 'U', 'u', 'R', 'x'].contains && letters.eraseDups = letters
    && (cs.filter (· == '-')).length ≤ 1 && cs.getLast? != some '-'

/-- Whether characters are those of Unicode behind flags. -/
def unicodeAfter (isUnicode : Bool) (flags : List Char) : Bool :=
  if !flags.contains 'u' then isUnicode else (flags.takeWhile (· != '-')).contains 'u'

/-- What has been read of a pattern. -/
structure State where
  /-- For each group that is open, the last one first, whether characters outside it are those of
  Unicode. -/
  groups : List Bool
  isUnicode : Bool
  /-- Something stands in front that can be repeated. -/
  repeats : Bool
  names : List (List Char)

namespace State

def openGroup (s : State) (isUnicode : Bool) : State :=
  { s with groups := s.isUnicode :: s.groups, isUnicode, repeats := false }

/-- Opens a group with a name that no other has. -/
def openNamed (s : State) (cs : List Char) : Option (State × List Char) := do
  let (name, rest) ← readName cs
  if s.names.contains name then none
  else some ({ s.openGroup s.isUnicode with names := name :: s.names }, rest)

/-- Reads what stands behind an opening bracket. -/
def readGroup (s : State) : List Char → Option (State × List Char)
  | '?' :: 'P' :: '<' :: cs => s.openNamed cs
  | '?' :: '<' :: cs => s.openNamed cs
  | '?' :: cs =>
    let flags := cs.takeWhile fun c => c != ':' && c != ')'
    let isUnicode := unicodeAfter s.isUnicode flags
    if !areFlags flags then none
    else
      match cs.drop flags.length with
      | ':' :: rest => some (s.openGroup isUnicode, rest)
      | _ :: rest =>
        if flags.isEmpty then none else some ({ s with isUnicode, repeats := false }, rest)
      | [] => none
  | cs => some (s.openGroup s.isUnicode, cs)

/-- Reads what stands behind a backslash. -/
def readEscape (s : State) (cs : List Char) : Option (State × List Char) := do
  let (e, rest) ← Pattern.readEscape cs
  let fits :=
    match e with
    | .char n => s.isUnicode || n < 0x80
    | .class isOpen => s.isUnicode || !isOpen
    | .place => true
    | .wordEnd => !s.isUnicode
  if fits then some ({ s with repeats := true }, rest) else none

/-- Reads on from a character; none if the text is no pattern.  A count in braces never ends. -/
def step (s : State) : Char → List Char → Option (State × List Char)
  | '(', cs => s.readGroup cs
  | ')', cs =>
    match s.groups with
    | [] => none
    | isUnicode :: groups => some ({ s with groups, isUnicode, repeats := true }, cs)
  | '|', cs => some ({ s with repeats := false }, cs)
  | '*', cs | '+', cs | '?', cs => if s.repeats then some (s, cs) else none
  | '\x7b', _ => none
  | '[', cs => do
    let rest ← readClass s.isUnicode (cs.length + 1) 1 (← openClass s.isUnicode cs)
    some ({ s with repeats := true }, rest)
  | '\\', cs => s.readEscape cs
  | '.', cs => if s.isUnicode then some ({ s with repeats := true }, cs) else none
  | _, cs => some ({ s with repeats := true }, cs)

end State

def check : Nat → State → List Char → Bool
  | _, s, [] => s.groups.isEmpty
  | 0, _, _ => false
  | fuel + 1, s, c :: cs =>
    match s.step c cs with
    | some (s, rest) => check fuel s rest
    | none => false

/-- Whether a text without closing braces is a pattern that can be sought in texts. -/
def isValid (s : String) : Bool := check s.length ⟨[], true, false, []⟩ s.toList

end TokenLaunch.Pattern
