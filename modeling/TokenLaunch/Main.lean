import TokenLaunch.Command

/-!
# The program

The files and the environment of the machine for the command line, and what it leaves behind.
-/

namespace TokenLaunch.Program

open FileTree

/-- The path that leads from the root to a location. -/
def pathText (l : Location) : String := "/" ++ String.intercalate "/" l

/-- The node at a location of this machine. -/
def node? (l : Location) : IO (Option Node) := do
  let path := (← IO.currentDir) / pathText l
  if ← path.isDir then return some .directory
  else if ← path.pathExists then
    try return some (.file (← IO.FS.readFile path)) catch _ => return some .data
  else return none

/-- The locations above a location, the root first. -/
def above (l : Location) : List Location := (List.range l.length).map l.take

/-- The location that pieces lead to. -/
def resolve (start : Location) (pieces : List String) : Location := pieces.foldl step start

/-- The locations on the way of a path, which begins in a directory or at the root. -/
def way (start : Location) (p : FilePath) : List Location :=
  (List.range (p.pieces.length + 1)).map fun n =>
    resolve (if p.isAbsolute then [] else start) (p.pieces.take n)

/-- The nodes on the ways of paths. -/
def tree (start : Location) (paths : List FilePath) : IO FileTree := do
  let all := (paths.flatMap (way start)).flatMap fun l => l :: above l
  let nodes ← all.eraseDups.filterMapM fun l => do return (← node? l).map fun n => (l, n)
  return ⟨nodes, start⟩

/-- Puts a node in its place on this machine. -/
def putNode (l : Location) : Node → IO Unit
  | .file text => IO.FS.writeFile (pathText l) text
  | .data => return ()
  | .directory => IO.FS.createDirAll (pathText l)

/-- Puts the nodes of a tree in their places that are not there yet, the oldest first. -/
def putAll (before after : FileTree) : IO Unit :=
  after.nodes.reverse.forM fun e =>
    if before.nodes.contains e then return () else putNode e.1 e.2

/-- The variables of the environment that the program looks at. -/
def consulted : List String := "RUST_LOG" :: ApiKeys.keyVariables

/-- Runs the program on this machine, which has no network. -/
def run (args : List String) : IO UInt32 := do
  let home := FilePath.ofText ((← IO.getEnv "HOME").getD "/")
  let start := resolve [] (FilePath.ofText (← IO.currentDir).toString).pieces
  let values ← consulted.filterMapM fun v => do return (← IO.getEnv v).map fun s => (v, s)
  let before ← tree start
    (Settings.logsDirectory home :: Settings.file home :: args.map FilePath.ofText)
  let place : Command.Place Unit := ⟨home, fun v => values.lookup v, Http.Network.down⟩
  let (outcome, state) := (Command.run place args).run ⟨before, (), []⟩
  putAll before state.files
  IO.print outcome.output
  for e in outcome.log do IO.eprintln e.text
  for line in outcome.report do IO.eprintln line
  if outcome.exitCode = 2 then IO.eprintln Command.usage
  return UInt32.ofNat outcome.exitCode

end TokenLaunch.Program

def main (args : List String) : IO UInt32 := TokenLaunch.Program.run args
