import TokenLaunch.Url.Host
import TokenLaunch.Url.Path

/-!
# Authorities

Who is asked for a resource: a host, the number of its port, and the credentials before them.
-/

namespace TokenLaunch.Url

/-! ## Schemes -/

/-- The usual `portNumber` of a scheme of the web. -/
def defaultPort? : String → Option Nat
  | "http" | "ws" => some 80
  | "https" | "wss" => some 443
  | "ftp" => some 21
  | _ => none

/-- The schemes of the web and of files read a backslash as a slash. -/
def isSpecial (scheme : String) : Bool := (defaultPort? scheme).isSome || scheme == "file"

/-! ## Credentials -/

/-- A name and a password as a URL spells them, of which one may be empty. -/
structure Credentials where
  name : String
  password : String
deriving DecidableEq, Repr

namespace Credentials

/-- A colon divides the name from the password. -/
def ofChars (cs : List Char) : Credentials :=
  let name := cs.takeWhile (· != ':')
  { name := String.ofList (percentEncode inUserinfo name),
    password := String.ofList (percentEncode inUserinfo (cs.drop (name.length + 1))) }

def isEmpty (c : Credentials) : Bool := c.name.isEmpty && c.password.isEmpty

def text (c : Credentials) : String :=
  if c.isEmpty then ""
  else c.name ++ (if c.password.isEmpty then "" else ":" ++ c.password) ++ "@"

/-- Whether a text stands for bytes that are a text. -/
def isReadable (s : String) : Bool :=
  (String.fromUTF8? ⟨(percentDecode s.toList).toArray⟩).isSome

/-- Whether the credentials can be told to a service: those that cannot stay in the URL. -/
def canBeTold (c : Credentials) : Bool :=
  isReadable c.name && (!c.name.isEmpty || (!c.password.isEmpty && isReadable c.password))

end Credentials

/-! ## Reading -/

structure Authority where
  credentials : Option Credentials
  host : Host
  /-- There unless it is the usual one of the scheme. -/
  portNumber : Option Nat
deriving DecidableEq, Repr

namespace Authority

/-- What ends the host and all that stands about it. -/
def ends (special : Bool) (c : Char) : Bool := c == '/' || (special && c == '\\')

/-- What stands before and after the last `@`. -/
def splitCredentials (cs : List Char) : Option (List Char) × List Char :=
  let host := (cs.reverse.takeWhile (· != '@')).reverse
  if host.length = cs.length then (none, cs)
  else (some (cs.take (cs.length - host.length - 1)), host)

/-- The host and what follows it from the colon on that stands outside brackets. -/
def splitHost (inBrackets : Bool) : List Char → List Char × List Char
  | [] => ([], [])
  | c :: cs =>
    if c = ':' ∧ !inBrackets then ([], c :: cs)
    else
      let (host, rest) := splitHost (c = '[' || (inBrackets && c != ']')) cs
      (c :: host, rest)

/-- The number after the colon, none where no digits follow, and what comes after it: nothing but a
backslash may end the digits. -/
def readPort (scheme : String) : List Char → Except Fault (Option Nat × List Char)
  | ':' :: cs =>
    let digits := cs.takeWhile Char.isDigit
    let rest := cs.drop digits.length
    if rest.head?.any (· != '\\') ∨ twoTo 16 ≤ Text.number digits then .error .badPort
    else
      let n := Text.number digits
      .ok (if digits.isEmpty ∨ defaultPort? scheme = some n then none else some n, rest)
  | cs => .ok (none, cs)

/-- The authority of a text and what is left of the text; `more` tells whether anything else
follows. -/
def ofChars (scheme : String) (cs : List Char) (more : Bool) :
    Except Fault (Authority × List Char) := do
  let special := isSpecial scheme
  let (before, cs) := splitCredentials cs
  let credentials := (before.map Credentials.ofChars).filter (!·.isEmpty)
  let (host, rest) := splitHost false cs
  if host.isEmpty then
    if special ∨ credentials.isSome ∨ !rest.isEmpty ∨ (before = some [] ∧ more) then
      throw .emptyHost
    else return (⟨none, .domain "", none⟩, [])
  else
    let h ← if special then Host.ofChars host else Host.ofPlainChars host
    let (portNumber, rest) ← readPort scheme rest
    return (⟨credentials, h, portNumber⟩, rest)

def text (a : Authority) : String :=
  "//" ++ (a.credentials.map (·.text)).getD "" ++ a.host.text
    ++ (a.portNumber.map fun n => ":" ++ Text.decimal n).getD ""

end Authority

end TokenLaunch.Url
