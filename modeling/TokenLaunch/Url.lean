import TokenLaunch.Url.Authority
import TokenLaunch.Url.Form

/-!
# URLs

The addresses of services: their parts, their one text, and the texts that stand for them.
-/

namespace TokenLaunch

structure Url where
  scheme : String
  /-- Of who asks, if the URL tells any. -/
  credentials : Option Url.Credentials
  host : Option Url.Host
  /-- There unless it is the usual one of the scheme. -/
  portNumber : Option Nat
  path : Url.Path
  query : Option String
  fragment : Option String
deriving DecidableEq, Repr

namespace Url

/-! ## Schemes -/

def isSchemeChar (c : Char) : Bool := c.isAlphanum || ['+', '-', '.'].contains c

/-- The scheme of a text, lowered, and what follows its colon. -/
def splitScheme (cs : List Char) : Option (String × List Char) :=
  let before := cs.takeWhile (· != ':')
  let name := counted before
  match name, cs.drop before.length with
  | c :: _, ':' :: rest =>
    if c.isAlpha && name.all isSchemeChar then
      some (String.ofList (name.map Char.toLower), rest)
    else none
  | _, _ => none

/-! ## Whole texts -/

/-- A blank or a control character. -/
def isEdge (c : Char) : Bool := c.toNat ≤ 0x20

/-- The text without blanks and controls at its ends. -/
def strip (cs : List Char) : List Char :=
  ((cs.dropWhile isEdge).reverse.dropWhile isEdge).reverse

/-- Query and fragment, and what stands before them. -/
def splitTail (special : Bool) (cs : List Char) : List Char × Option String × Option String :=
  let before := cs.takeWhile (· != '#')
  let fragment := (cs.drop before.length).tail?.map fun f =>
    String.ofList (percentEncode inFragment (counted f))
  let hierarchy := before.takeWhile (· != '?')
  let query := (before.drop hierarchy.length).tail?.map fun q =>
    String.ofList (percentEncode (inQuery special) (counted q))
  (hierarchy, query, fragment)

/-- What a URL names before its query. -/
abbrev Hierarchy := Option Authority × Path

/-- The path after an authority: it begins with a slash, and only outside the web it may be
missing. -/
def pathAfter (special : Bool) (cs : List Char) : Path :=
  match cs with
  | [] => .segments (if special then [""] else [])
  | c :: rest => Path.ofChars special (if Authority.ends special c then rest else c :: rest)

/-- An authority and a path; `more` tells whether a query or a fragment follows. -/
def readWithHost (scheme : String) (cs : List Char) (more : Bool) : Except Fault Hierarchy := do
  let special := isSpecial scheme
  let before := cs.takeWhile (!Authority.ends special ·)
  let after := cs.drop before.length
  let (authority, rest) ← Authority.ofChars scheme (counted before) (more || !after.isEmpty)
  return (some authority, pathAfter special (rest ++ after))

/-- This machine. -/
def here : Authority := ⟨none, .domain "", none⟩

/-- Files on this machine. -/
def readHere (cs : List Char) : Hierarchy := (some here, (Path.ofFile cs).1)

/-- Files on the host that a text names: a drive is none, and a path on a drive needs none. -/
def readThere (cs : List Char) : Except Fault Hierarchy := do
  let before := cs.takeWhile (!isSlash ·)
  let name := counted before
  if Path.isDrive name then return readHere cs
  else
    let (path, onDrive) := Path.ofFile (cs.drop (before.length + 1))
    let host ← if name.isEmpty then .ok (.domain "") else Host.ofChars name
    let isHere := onDrive ∨ host = .domain "localhost"
    return (some (if isHere then here else ⟨none, host, none⟩), path)

/-- Files are found on this machine, or on a host after two slashes. -/
def readFile (cs : List Char) : Except Fault Hierarchy :=
  match cs.dropWhile isIgnored with
  | a :: rest =>
    if isSlash a then
      match rest.dropWhile isIgnored with
      | b :: more => if isSlash b then readThere more else .ok (readHere rest)
      | [] => .ok (readHere [])
    else .ok (readHere (a :: rest))
  | [] => .ok (readHere [])

/-- The path of a text without a host, which is a name if it does not begin with a slash. -/
def readWithoutHost (cs : List Char) : Path :=
  match cs with
  | '/' :: rest => Path.ofChars false rest
  | cs => .name (String.ofList (percentEncode isControl cs))

/-- The authority and the path that a text without query and fragment names. -/
def readHierarchy (scheme : String) (cs : List Char) (more : Bool) : Except Fault Hierarchy :=
  if scheme = "file" then readFile cs
  else if isSpecial scheme then
    readWithHost scheme (cs.dropWhile fun c => isSlash c || isIgnored c) more
  else
    match counted cs with
    | '/' :: '/' :: rest => readWithHost scheme rest more
    | cs => .ok (none, readWithoutHost cs)

/-- The URL that a text stands for. -/
def ofText (s : String) : Except Fault Url := do
  let (scheme, rest) ← orFault .noScheme (splitScheme (strip s.toList))
  let (hierarchy, query, fragment) := splitTail (isSpecial scheme) rest
  let (authority, path) ← readHierarchy scheme hierarchy (query.isSome || fragment.isSome)
  return { scheme, credentials := authority.bind (·.credentials), host := authority.map (·.host),
           portNumber := authority.bind (·.portNumber), path, query, fragment }

/-- The host with what belongs to it. -/
def authority? (u : Url) : Option Authority :=
  u.host.map fun host => ⟨u.credentials, host, u.portNumber⟩

/-- The path and the query. -/
def target (u : Url) : String := u.path.text ++ (u.query.map ("?" ++ ·)).getD ""

/-- What stands before the path: where there is no host, a dot keeps the path from looking like
one. -/
def origin (u : Url) : String :=
  match u.authority? with
  | some a => a.text
  | none => if u.path.text.startsWith "//" then "/." else ""

def text (u : Url) : String :=
  u.scheme ++ ":" ++ u.origin ++ u.target ++ (u.fragment.map ("#" ++ ·)).getD ""

/-! ## Services -/

def hasHost (u : Url) : Bool := u.host.any (· != .domain "")

/-- A service of the web can be asked under this URL. -/
def isWeb (u : Url) : Bool := (u.scheme == "http" || u.scheme == "https") && u.hasHost

/-- Whether a text is the URL of a service of the web. -/
def isValid (s : String) : Bool :=
  match ofText s with
  | .ok u => u.isWeb
  | .error _ => false

/-- The URL without credentials that a service is told in another way. -/
def withoutCredentials (u : Url) : Url :=
  { u with credentials := u.credentials.filter (!·.canBeTold) }

/-- The URL with pairs after those of its query. -/
def addPairs (u : Url) (pairs : List (String × String)) : Url :=
  { u with query := some <| match u.query with
      | none | some "" => form pairs
      | some q => q ++ "&" ++ form pairs }

end Url

end TokenLaunch
