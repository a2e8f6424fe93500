import TokenLaunch.Pattern
import TokenLaunch.Text

/-!
# Logs

Messages of a program, and the filters that decide which of them are shown.
-/

namespace TokenLaunch

namespace Log

inductive Level where
  | error
  | warn
  | info
  | debug
  | trace
deriving DecidableEq, Repr

namespace Level

/-- The more a level tells, the higher it is. -/
def rank : Level → Nat
  | error => 1
  | warn => 2
  | info => 3
  | debug => 4
  | trace => 5

def name : Level → String
  | error => "ERROR"
  | warn => "WARN"
  | info => "INFO"
  | debug => "DEBUG"
  | trace => "TRACE"

end Level

/-- A message of a part of the program. -/
structure Entry where
  level : Level
  /-- The part that speaks. -/
  target : String
  message : String
  fields : List (String × String)
deriving DecidableEq, Repr

/-- A character of a message; those that a terminal acts upon are spelled out. -/
def shownChar (c : Char) : List Char :=
  if ['\x07', '\x08', '\x0c', '\x1b', '\x7f'].contains c then
    ['\\', 'x', Hex.digit (c.toNat / 16), Hex.digit c.toNat]
  else if 0x80 ≤ c.toNat ∧ c.toNat ≤ 0x9F then
    ['\\', 'u', '\x7b', Hex.digit (c.toNat / 16), Hex.digit c.toNat, '\x7d']
  else [c]

/-- The entry as it is shown. -/
def Entry.text (e : Entry) : String :=
  e.level.name ++ " " ++ String.ofList (e.message.toList.flatMap shownChar)
    ++ String.join (e.fields.map fun f => " " ++ f.1 ++ "=" ++ f.2)

/-! ## Directives -/

/-- A field that entries have to have. -/
structure Field where
  name : String
  /-- Its value is asked for, too. -/
  hasValue : Bool
deriving DecidableEq, Repr

/-- What a filter says of the entries of some parts of a program. -/
structure Directive where
  /-- How the names of the parts begin; every part where it is left out. -/
  target : Option String
  /-- The name of the span inside which entries have to be written. -/
  span : Option String
  field : Option Field
  /-- The highest level that is shown, by its rank. -/
  limit : Nat
deriving DecidableEq, Repr

/-! ### Words -/

/-- The rank of the highest level that a word lets through. -/
def limit? (s : String) : Option Nat :=
  let digits :=
    match s.toList with
    | '+' :: ds => ds
    | ds => ds
  match Text.number? digits with
  | some n => if n ≤ Level.trace.rank then some n else none
  | none =>
    match Text.lower s with
    | "off" => some 0
    | "error" => some Level.error.rank
    | "warn" => some Level.warn.rank
    | "info" => some Level.info.rank
    | "debug" => some Level.debug.rank
    | "trace" => some Level.trace.rank
    | _ => none

/-- The limit that a word behind an equals sign sets; without a word all levels are shown. -/
def limitOrAll? (s : String) : Option Nat := if s.isEmpty then some Level.trace.rank else limit? s

/-- The digits of a number, with a point among them or without. -/
def isMantissa (cs : List Char) : Bool :=
  let fraction := cs.dropWhile Char.isDigit
  match fraction with
  | [] => !cs.isEmpty
  | '.' :: more => more.all Char.isDigit && 1 < cs.length
  | _ => false

def dropSign : List Char → List Char
  | '+' :: cs => cs
  | '-' :: cs => cs
  | cs => cs

/-- A number in any of its spellings. -/
def isNumber (s : String) : Bool :=
  let cs := (dropSign s.toList).map Char.toLower
  let mantissa := cs.takeWhile (· != 'e')
  let exponent := dropSign (cs.drop (mantissa.length + 1))
  ["inf", "infinity", "nan"].contains (String.ofList cs)
    || (isMantissa mantissa
      && (mantissa.length = cs.length || (!exponent.isEmpty && exponent.all Char.isDigit)))

/-- A field, perhaps with a value after an equals sign, which is a number or a pattern. -/
def Field.ofText? (s : String) : Option Field :=
  match s.splitOn "=" with
  | name :: value :: _ =>
    if isNumber value || Pattern.isValid value then some ⟨name, true⟩ else none
  | _ => if s.isEmpty then none else some ⟨s, false⟩

/-! ### Reading

A directive is read from a line without the blanks at its ends, but its words are cut from the line
as it stands, at the same distances from the beginning. -/

/-- What follows so many bytes. -/
def dropBytes : Nat → List Char → Option (List Char)
  | 0, cs => some cs
  | _ + 1, [] => none
  | n + 1, c :: cs => if c.utf8Size ≤ n + 1 then dropBytes (n + 1 - c.utf8Size) cs else none

/-- So many bytes at the head. -/
def takeBytes : Nat → List Char → Option (List Char)
  | 0, _ => some []
  | _ + 1, [] => none
  | n + 1, c :: cs =>
    if c.utf8Size ≤ n + 1 then (takeBytes (n + 1 - c.utf8Size) cs).map (c :: ·) else none

/-- The word of a line between two distances. -/
def cut (line : List Char) (first last : Nat) : Option String := do
  return String.ofList (← takeBytes (last - first) (← dropBytes first line))

/-- The rest of a line from a distance on. -/
def cutRest (line : List Char) (first : Nat) : Option String :=
  (dropBytes first line).map String.ofList

/-- Where a reader of directives is, with the distance at which the word there begins. -/
inductive Place where
  | start
  /-- In a level or the name of a part. -/
  | word (first : Nat)
  | span (first : Nat)
  | field (first : Nat)
  | afterField
  | afterName
  | level (first : Nat)
deriving DecidableEq, Repr

/-- What is known of a directive, and where its reader is. -/
structure Reader where
  place : Place
  directive : Directive

namespace Reader

def start : Reader := ⟨.start, ⟨none, none, none, Level.trace.rank⟩⟩

/-- Whether a name may begin with a character. -/
def beginsName (c : Char) : Bool := ['-', ':', '_'].contains c || Unicode.isAlphanumeric c

def setTarget (r : Reader) (name : String) (place : Place) : Reader :=
  ⟨place, { r.directive with target := some name }⟩

def setSpan (r : Reader) (name : String) (place : Place) : Reader :=
  ⟨place, { r.directive with span := some name }⟩

/-- Reads a character at a distance; none if it has no place there. -/
def step (line : List Char) (r : Reader) (here : Nat) (c : Char) : Option Reader :=
  match r.place with
  | .start =>
    if c = '[' then some { r with place := .span (here + 1) }
    else if beginsName c then some { r with place := .word here }
    else none
  | .word first =>
    if c = '=' then do return r.setTarget (← cut line first here) (.level (here + 1))
    else if c = '[' then do return r.setTarget (← cut line first here) (.span (here + 1))
    else some r
  | .span first =>
    if c = ']' then do return r.setSpan (← cut line first here) .afterName
    else if c = '\x7b' then do
      let name ← cut line first here
      let place := Place.field (here + 1)
      return if name.isEmpty then { r with place } else r.setSpan name place
    else some r
  | .field first =>
    if c = '\x7d' then do
      let f ← Field.ofText? (← cut line first here)
      return ⟨.afterField, { r.directive with field := some f }⟩
    else some r
  | .afterField => if c = ']' then some { r with place := .afterName } else none
  | .afterName => if c = '=' then some { r with place := .level (here + 1) } else none
  | .level _ => some r

/-- Reads characters from a distance on. -/
def run (line : List Char) : Reader → Nat → List Char → Option Reader
  | r, _, [] => some r
  | r, here, c :: cs => do run line (← r.step line here c) (here + c.utf8Size) cs

/-- The directive at the end of the line.  A word alone is a level, or else a part of which all
levels are shown. -/
def finish (line : List Char) (r : Reader) : Option Directive :=
  match r.place with
  | .word first => do
    let word ← cutRest line first
    return match limit? word with
      | some limit => { r.directive with limit }
      | none => { r.directive with target := some word }
  | .level first => do return { r.directive with limit := ← limitOrAll? (← cutRest line first) }
  | .afterName => some r.directive
  | _ => none

end Reader

/-- The directive of a line. -/
def Directive.ofText? (s : String) : Option Directive := do
  let line := s.toList
  (← Reader.start.run line 0 (Text.trimRight (Text.trimLeft line))).finish line

namespace Directive

/-- Whether entries outside all spans can meet the directive. -/
def isPlain (d : Directive) : Bool := d.span.isNone && !d.field.any (·.hasValue)

/-- Whether an entry is one of those that the directive speaks of. -/
def covers (d : Directive) (e : Entry) : Bool :=
  d.target.all (fun t => t.toList.isPrefixOf e.target.toList)
    && d.field.all fun f => f.name == "message" || e.fields.any (·.1 == f.name)

/-- The order of texts of which either may be missing. -/
def compareTexts : Option String → Option String → Ordering
  | none, none => .eq
  | none, some _ => .lt
  | some _, none => .gt
  | some s, some t => compareOfLessAndEq s t

def fieldName (d : Directive) : Option String := d.field.map (·.name)

/-- The length of the target, if there is one. -/
def reach (d : Directive) : Nat := (d.target.map fun t => t.utf8ByteSize + 1).getD 0

/-- Of two directives the greater one says more: it has the longer target, or else it has a field;
of those alike in this the names decide. -/
def order (d e : Directive) : Ordering :=
  (compareOfLessAndEq d.reach e.reach).then <|
    (compareOfLessAndEq d.field.toList.length e.field.toList.length).then <|
      (compareTexts d.target e.target).then (compareTexts d.fieldName e.fieldName)

end Directive

/-! ## Filters -/

/-- Directives in order. -/
abbrev Filter := List Directive

/-- The filter of a text: directives with commas between them, of which some may be empty. -/
def Filter.ofText? (s : String) : Option Filter :=
  ((s.splitOn ",").filter (· ≠ "")).mapM Directive.ofText?

/-- The filter that shows all entries up to a level. -/
def Filter.upTo (level : Level) : Filter := [⟨none, none, none, level.rank⟩]

/-- The directive that says most of an entry; of those that say the same, the last. -/
def Filter.directive? (f : Filter) (e : Entry) : Option Directive :=
  (f.filter fun d => d.isPlain && d.covers e).foldl
    (fun best d => if best.all fun b => b.order d ≠ .gt then some d else best) none

/-- Whether an entry is shown. -/
def Filter.shows (f : Filter) (e : Entry) : Bool :=
  (f.directive? e).any (e.level.rank ≤ ·.limit)

end Log

end TokenLaunch
