import TokenLaunch.Text

/-!
# Paths

Paths of files, as they are written.  Several paths may lead to one file, and a path may lead to
nothing at all, so a path is no more than what stands between its slashes; where it leads is a
matter of the files that are there.
-/

namespace TokenLaunch

/-- A path as it is written. -/
structure FilePath where
  /-- What stands between the slashes, before the first one and after the last one too. -/
  pieces : List String
deriving DecidableEq, Repr

namespace FilePath

def ofText (s : String) : FilePath := ⟨s.splitOn "/"⟩

def text (p : FilePath) : String := String.intercalate "/" p.pieces

/-- The path of the root. -/
def root : FilePath := ⟨["", ""]⟩

/-- A path that begins with a slash begins at the root, wherever it is used. -/
def isAbsolute (p : FilePath) : Bool :=
  match p.pieces with
  | "" :: _ :: _ => true
  | _ => false

/-- Nothing comes after the last slash. -/
def endsInSlash (p : FilePath) : Bool := p.pieces.getLast? = some ""

/-- A path below another one; one that begins at the root is not below anything. -/
def join (p q : FilePath) : FilePath :=
  if q.isAbsolute then q
  else if p.endsInSlash then ⟨p.pieces.dropLast ++ q.pieces⟩
  else ⟨p.pieces ++ q.pieces⟩

/-! ## Names -/

/-- A piece that leads nowhere else: what is between two slashes, or a single dot. -/
def stays (piece : String) : Bool := piece = "" ∨ piece = "."

/-- A piece that stands for a directory by its place, and that no file can have as its name. -/
def isDots (piece : String) : Bool := piece = "." ∨ piece = ".."

/-- What comes before the last name, and that name.  Slashes after it do not count. -/
def split? (p : FilePath) : Option (List String × String) :=
  match p.pieces.reverse.dropWhile (· = "") with
  | [] => none
  | name :: before => some (before.reverse, name)

/-- The path without its last name, if it has another one or begins at the root.  Single dots are
no names here, while two dots are one. -/
def parent? (p : FilePath) : Option FilePath :=
  match p.pieces.reverse.dropWhile stays with
  | [] => none
  | _ :: above =>
    match above.dropWhile stays with
    | [] => if p.isAbsolute then some root else none
    | name :: before => some ⟨(name :: before).reverse⟩

/-- A path, its parent, the parent of that one and so on, for a number of steps at most. -/
def upwards : Nat → FilePath → List FilePath
  | 0, p => [p]
  | n + 1, p => p :: (p.parent?.map (upwards n)).getD []

/-- A path and all that are its parents, the nearest first. -/
def ancestors (p : FilePath) : List FilePath := upwards p.pieces.length p

end FilePath

end TokenLaunch
