import TokenLaunch.Power
import TokenLaunch.Text

/-!
# Instants

Moments in universal time and their texts: a date and a time of day with an offset.
-/

namespace TokenLaunch

/-- A date of the Gregorian calendar, extended to all years. -/
structure Date where
  year : Int
  month : Nat
  day : Nat
deriving DecidableEq, Repr

namespace Date

def isLeap (year : Int) : Bool := year % 4 = 0 ∧ (year % 100 ≠ 0 ∨ year % 400 = 0)

def monthLength (year : Int) (month : Nat) : Nat :=
  if month = 2 then (if isLeap year then 29 else 28)
  else if month = 4 ∨ month = 6 ∨ month = 9 ∨ month = 11 then 30
  else 31

def isValid (d : Date) : Bool :=
  1 ≤ d.month ∧ d.month ≤ 12 ∧ 1 ≤ d.day ∧ d.day ≤ monthLength d.year d.month

/-- Days since the first of January 1970.  Years are taken to begin in March, and to come in rounds
of four hundred. -/
def toDay (d : Date) : Int :=
  let year := if d.month ≤ 2 then d.year - 1 else d.year
  let round := year / 400
  let yearOfRound := year % 400
  let month : Int := if 2 < d.month then (d.month : Int) - 3 else d.month + 9
  let dayOfYear := (153 * month + 2) / 5 + d.day - 1
  let dayOfRound := yearOfRound * 365 + yearOfRound / 4 - yearOfRound / 100 + dayOfYear
  round * 146097 + dayOfRound - 719468

/-- The date of a day. -/
def ofDay (day : Int) : Date :=
  let shifted := day + 719468
  let round := shifted / 146097
  let dayOfRound := shifted % 146097
  let yearOfRound :=
    (dayOfRound - dayOfRound / 1460 + dayOfRound / 36524 - dayOfRound / 146096) / 365
  let dayOfYear := dayOfRound - (365 * yearOfRound + yearOfRound / 4 - yearOfRound / 100)
  let month := (5 * dayOfYear + 2) / 153
  let day := dayOfYear - (153 * month + 2) / 5 + 1
  let calendarMonth := if month < 10 then month + 3 else month - 9
  let year := yearOfRound + round * 400 + (if calendarMonth ≤ 2 then 1 else 0)
  ⟨year, calendarMonth.toNat, day.toNat⟩

end Date

/-- A moment: the day since the first of January 1970, the second of the day, and the nanosecond,
which is a thousand million or more within a leap second. -/
structure Instant where
  day : Int
  second : Nat
  nano : Nat
deriving DecidableEq, Repr

namespace Instant

/-- The years that can be told. -/
def firstDay : Int := Date.toDay ⟨-262143, 1, 1⟩

def lastDay : Int := Date.toDay ⟨262142, 12, 31⟩

def inRange (day : Int) : Bool := firstDay ≤ day ∧ day ≤ lastDay

/-! ## Writing -/

/-- Digits with zeros before them up to a width. -/
def padded (width n : Nat) : List Char :=
  let digits := Nat.toDigits 10 n
  List.replicate (width - digits.length) '0' ++ digits

/-- Years outside of four digits carry a sign. -/
def yearChars (year : Int) : List Char :=
  if 0 ≤ year ∧ year ≤ 9999 then padded 4 year.toNat
  else (if year < 0 then '-' else '+') :: padded 4 year.natAbs

/-- The fraction of a second in none, three, six or nine digits, the fewest that tell it. -/
def fractionChars (nano : Nat) : List Char :=
  if nano = 0 then []
  else if nano % 1000000 = 0 then '.' :: padded 3 (nano / 1000000)
  else if nano % 1000 = 0 then '.' :: padded 6 (nano / 1000)
  else '.' :: padded 9 nano

/-- The seconds within a minute and their fraction; a leap second is the sixtieth. -/
def secondChars (second nano : Nat) : List Char :=
  let leap := nano / 1000000000
  padded 2 (second % 60 + leap) ++ fractionChars (nano % 1000000000)

def chars (t : Instant) : List Char :=
  let date := Date.ofDay t.day
  yearChars date.year ++ '-' :: padded 2 date.month ++ '-' :: padded 2 date.day
    ++ 'T' :: padded 2 (t.second / 3600) ++ ':' :: padded 2 (t.second / 60 % 60)
    ++ ':' :: secondChars t.second t.nano ++ ['Z']

/-- The date and time of day in universal time. -/
def text (t : Instant) : String := String.ofList t.chars

/-! ## Reading -/

/-- A number of one digit or more, of at most `width` digits where a width is given. -/
def readNumber (width : Option Nat) (cs : List Char) : Option (Nat × List Char) :=
  let window := match width with
    | some w => cs.take w
    | none => cs
  let digits := window.takeWhile Char.isDigit
  if digits.isEmpty then none else some (Text.number digits, cs.drop digits.length)

/-- A number of two digits at most, blanks before it set aside. -/
def readField (cs : List Char) : Option (Nat × List Char) :=
  readNumber (some 2) (Text.trimLeft cs)

/-- A year of four digits at most, or of any number of digits after a sign. -/
def readYear (cs : List Char) : Option (Int × List Char) :=
  match Text.trimLeft cs with
  | '-' :: cs => (readNumber none cs).map fun (n, rest) => (-(n : Int), rest)
  | '+' :: cs => (readNumber none cs).map fun (n, rest) => ((n : Int), rest)
  | cs => (readNumber (some 4) cs).map fun (n, rest) => ((n : Int), rest)

/-- A sign between two fields, blanks before it set aside. -/
def readSign (c : Char) (cs : List Char) : Option (List Char) :=
  match Text.trimLeft cs with
  | d :: rest => if d = c then some rest else none
  | [] => none

/-- The nanoseconds after a point: digits after the ninth do not count. -/
def readFraction : List Char → Option (Nat × List Char)
  | '.' :: cs =>
    let digits := cs.takeWhile Char.isDigit
    let kept := digits.take 9
    if digits.isEmpty then none
    else some (Text.number kept * tenTo (9 - kept.length), cs.dropWhile Char.isDigit)
  | cs => some (0, cs)

def isSeparator (c : Char) : Bool := c == ':' || Text.isBlank c

/-- Two digits of hours and two of minutes, in seconds. -/
def readHours (cs : List Char) : Option (Nat × List Char) :=
  match cs with
  | a :: b :: rest =>
    if a.isDigit ∧ b.isDigit then
      match rest.dropWhile isSeparator with
      | c :: d :: rest =>
        if c.isDigit ∧ d.isDigit ∧ Text.number [c, d] < 60 then
          some (Text.number [a, b] * 3600 + Text.number [c, d] * 60, rest)
        else none
      | _ => none
    else none
  | _ => none

/-- Seconds east of universal time: `Z`, `UTC`, or a sign with hours and minutes. -/
def readOffset (cs : List Char) : Option (Int × List Char) :=
  match cs with
  | c :: rest =>
    if Text.sameWord (String.ofList (cs.take 3)) "UTC" then some (0, cs.drop 3)
    else if c = 'Z' ∨ c = 'z' then some (0, rest)
    else if c = '+' then (readHours rest).map fun (n, rest) => ((n : Int), rest)
    else if c = '-' ∨ c = '\u2212' then (readHours rest).map fun (n, rest) => (-(n : Int), rest)
    else none
  | [] => none

/-- The moment of a date and time of day at an offset; none when there is no such moment. -/
def ofParts (date : Date) (hour minute second nano : Nat) (offset : Int) : Option Instant :=
  if date.isValid ∧ inRange date.toDay ∧ hour < 24 ∧ minute < 60 ∧ second ≤ 60
      ∧ offset.natAbs < 86400 then
    let leap := if second = 60 then 1 else 0
    let sinceMidnight : Int := hour * 3600 + minute * 60 + (second - leap : Nat)
    let shifted := sinceMidnight - offset
    let day := date.toDay + shifted / 86400
    if inRange day then some ⟨day, (shifted % 86400).toNat, nano + leap * 1000000000⟩ else none
  else none

/-- Whether a character stands between the date and the time of day. -/
def isDateEnd (c : Char) : Bool := c == 'T' || c == 't' || c == ' '

/-- A date, a time of day and an offset, with blanks between the parts set aside. -/
def ofChars? (cs : List Char) : Option Instant := do
  let (year, cs) ← readYear cs
  let cs ← readSign '-' cs
  let (month, cs) ← readField cs
  let cs ← readSign '-' cs
  let (day, cs) ← readField cs
  match cs with
  | [] => none
  | c :: cs =>
    if isDateEnd c then do
      let (hour, cs) ← readField cs
      let cs ← readSign ':' cs
      let (minute, cs) ← readField cs
      let cs ← readSign ':' cs
      let (second, cs) ← readField cs
      let (nano, cs) ← readFraction cs
      let (offset, cs) ← readOffset (Text.trimLeft cs)
      if (Text.trimLeft cs).isEmpty then ofParts ⟨year, month, day⟩ hour minute second nano offset
      else none
    else none

def ofText? (s : String) : Option Instant := ofChars? s.toList

end Instant

end TokenLaunch
