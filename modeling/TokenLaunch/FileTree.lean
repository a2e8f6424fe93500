import TokenLaunch.FilePath

/-!
# File trees

Files and directories, as far as a program knows them, and where paths lead among them.  A path is
followed name by name, and all that is on the way has to be there: two dots after a name that leads
nowhere do not lead back.
-/

namespace TokenLaunch

/-- What stands at a location. -/
inductive Node where
  | file (text : String)
  /-- A file that holds no text. -/
  | data
  | directory
deriving DecidableEq, Repr

/-- The names from the root down. -/
abbrev Location := List String

structure FileTree where
  /-- Nodes at their locations, the newest first; what has nodes below it is a directory. -/
  nodes : List (Location × Node)
  /-- The directory where paths begin that do not begin at the root. -/
  start : Location
deriving DecidableEq, Repr

namespace FileTree

/-- Why a file cannot be read or made. -/
inductive Fault where
  | missing
  | present
  | notDirectory
  | isDirectory
  | tooLong
  | zeroByte
  | notText
deriving DecidableEq, Repr

def Fault.message : Fault → String
  | missing => "No such file or directory (os error 2)"
  | present => "File exists (os error 17)"
  | notDirectory => "Not a directory (os error 20)"
  | isDirectory => "Is a directory (os error 21)"
  | tooLong => "File name too long (os error 36)"
  | zeroByte => "file name contained an unexpected NUL byte"
  | notText => "stream did not contain valid UTF-8"

/-! ## Locations -/

/-- The node at a location. -/
def node? (t : FileTree) (l : Location) : Option Node :=
  match t.nodes.lookup l with
  | some n => some n
  | none => if l = [] ∨ t.nodes.any fun e => l.isPrefixOf e.1 then some .directory else none

/-- The tree with a node in place of the one at the location. -/
def put (l : Location) (n : Node) (t : FileTree) : FileTree :=
  { t with nodes := (l, n) :: t.nodes.filter (·.1 ≠ l) }

/-- The location that a piece of a path leads to. -/
def step (l : Location) (piece : String) : Location :=
  if FilePath.stays piece then l else if piece = ".." then l.dropLast else l ++ [piece]

/-! ## Ways -/

/-- The number of bytes that a name may have. -/
def nameLimit : Nat := 255

/-- The number of bytes that a path may have. -/
def pathLimit : Nat := 4095

/-- Follows the pieces of a path from a location on.  Each of them needs a directory before it;
whether something stands at the end is left open. -/
def follow (t : FileTree) : Location → List String → Except Fault Location
  | l, [] => .ok l
  | l, piece :: pieces =>
    match t.node? l with
    | some .directory =>
      if piece.utf8ByteSize > nameLimit then .error .tooLong else follow t (step l piece) pieces
    | some _ => .error .notDirectory
    | none => .error .missing

/-- Follows pieces from where the path begins, if the path is one that can be followed at all. -/
def followFor (t : FileTree) (p : FilePath) (pieces : List String) : Except Fault Location :=
  if p.text.toList.contains '\x00' then .error .zeroByte
  else if p.text = "" then .error .missing
  else if p.text.utf8ByteSize > pathLimit then .error .tooLong
  else t.follow (if p.isAbsolute then [] else t.start) pieces

/-- What stands at the end of a path. -/
def find (t : FileTree) (p : FilePath) : Except Fault Node := do
  match t.node? (← t.followFor p p.pieces) with
  | some n => return n
  | none => throw .missing

/-- Where the last name of a path leads, if it is a name that something new can have. -/
def site (t : FileTree) (p : FilePath) : Except Fault (Option Location) := do
  match p.split? with
  | none => discard (t.followFor p []); return none
  | some (before, name) =>
    let l ← t.followFor p (before ++ [name])
    return if FilePath.isDots name then none else some l

/-! ## Reading -/

/-- Something stands at the end of the path. -/
def stands (t : FileTree) (p : FilePath) : Bool := (t.find p).isOk

def isDirectory (t : FileTree) (p : FilePath) : Bool :=
  match t.find p with
  | .ok .directory => true
  | _ => false

/-- The text of the file at the end of a path. -/
def read (t : FileTree) (p : FilePath) : Except Fault String := do
  match ← t.find p with
  | .file text => return text
  | .data => throw .notText
  | .directory => throw .isDirectory

/-! ## Changes -/

/-- Work on a tree that may fail.  What was done before a fault stays done. -/
abbrev Change := ExceptT Fault (StateM FileTree)

/-- Makes one directory in another one. -/
def makeDirectory (p : FilePath) : Change Unit := do
  let t ← get
  match ← t.site p with
  | none => throw .present
  | some l => if (t.node? l).isSome then throw .present else set (put l .directory t)

/-- Makes a directory, unless there is one already. -/
def ensureDirectory (p : FilePath) : Change Unit :=
  tryCatch (makeDirectory p) fun fault => do
    if (← get).isDirectory p then return () else throw fault

/-- Makes the first of some directories; where it has nowhere to stand, the others before it. -/
def ensureFirst : List FilePath → Change Unit
  | [] => return ()
  | p :: above =>
    tryCatch (ensureDirectory p) fun fault => do
      if fault = .missing then
        ensureFirst above
        ensureDirectory p
      else throw fault

/-- Makes a directory and all that is above it, as far as they are not there. -/
def ensureDirectories (p : FilePath) : Change Unit := ensureFirst p.ancestors

/-- Writes a file into a directory that is there. -/
def write (p : FilePath) (text : String) : Change Unit := do
  let t ← get
  match ← t.site p with
  | none => throw .isDirectory
  | some l =>
    if p.endsInSlash ∨ t.node? l = some .directory then throw .isDirectory
    else set (put l (.file text) t)

end FileTree

end TokenLaunch
