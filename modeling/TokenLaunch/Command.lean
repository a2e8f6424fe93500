import TokenLaunch.Launch
import TokenLaunch.Log
import TokenLaunch.Quoted
import TokenLaunch.Settings

/-!
# The command line

The commands of the program, what they write, and how they fail.
-/

namespace TokenLaunch

/-- What a user can ask for. -/
inductive Command where
  /-- The source of the token in a draft file. -/
  | synth (path : String)
  /-- The compiled source of the token in a draft file. -/
  | compile (path : String)
  /-- The list of the networks. -/
  | networks
deriving DecidableEq, Repr

namespace Command

/-- The command as messages show it. -/
def text : Command → String
  | synth path => "Synth \x7b config: " ++ Quoted.path path ++ " \x7d"
  | compile path => "Compile \x7b config: " ++ Quoted.path path ++ " \x7d"
  | networks => "Networks"

/-! ## Arguments -/

/-- What the arguments of the program amount to. -/
inductive Request where
  | command (c : Command)
  | version
  | help
  /-- The arguments are none that the program knows. -/
  | misused
deriving DecidableEq, Repr

/-- A request for help; what follows the short one in its word is not looked at. -/
def isHelp (arg : String) : Bool := arg == "--help" || arg.startsWith "-h"

/-- A request for the version, in the same two forms. -/
def isVersion (arg : String) : Bool := arg == "--version" || arg.startsWith "-V"

/-- An argument that begins with a hyphen and is more than that. -/
def isOption (arg : String) : Bool := arg.startsWith "-" && arg != "-"

/-- The one path that follows a command; after two hyphens it may look like an option. -/
def onePath (make : String → Command) : List String → Request
  | ["--", s] => if s.isEmpty then .misused else .command (make s)
  | s :: rest =>
    if isHelp s then .help
    else if isOption s ∨ s.isEmpty then .misused
    else
      match rest with
      | [] | ["--"] => .command (make s)
      | t :: _ => if isHelp t then .help else .misused
  | [] => .misused

/-- The words that help can be asked about. -/
def names : List String := ["synth", "compile", "networks", "help"]

def Request.ofArgs : List String → Request
  | "synth" :: args => onePath synth args
  | "compile" :: args => onePath compile args
  | ["networks"] => .command networks
  | ["networks", "--"] => .command networks
  | "networks" :: arg :: _ => if isHelp arg then .help else .misused
  | ["help"] => .help
  | ["help", name] => if names.contains name then .help else .misused
  | arg :: _ => if isHelp arg then .help else if isVersion arg then .version else .misused
  | [] => .misused

/-! ## Failures -/

/-- Why a command failed, and what that comes from, the nearest cause first. -/
structure Failure where
  message : String
  causes : List String
deriving DecidableEq, Repr

namespace Failure

/-- The failure in one line. -/
def line (f : Failure) : String := String.intercalate ": " (f.message :: f.causes)

/-- The lines of a text, with a beginning before the first and another before the others. -/
def indented (first others s : String) : List String :=
  match s.splitOn "\n" with
  | [] => []
  | l :: ls => (first ++ l) :: ls.map (others ++ ·)

/-- Causes with their numbers. -/
def numbered (n : Nat) : List String → List String
  | [] => []
  | c :: cs =>
    let number := Text.decimal n
    let first := String.ofList (List.replicate (5 - number.length) ' ') ++ number ++ ": "
    indented first "       " c ++ numbered (n + 1) cs

/-- The lines that tell of a failure when the program ends; a single cause has no number. -/
def report (f : Failure) : List String :=
  ("Error: " ++ f.message).splitOn "\n" ++
    match f.causes with
    | [] => []
    | [c] => ["", "Caused by:"] ++ indented "    " "    " c
    | cs => ["", "Caused by:"] ++ numbered 0 cs

end Failure

/-! ## Work -/

/-- Where a command runs. -/
structure Place (σ : Type) where
  /-- The home directory. -/
  home : FilePath
  environment : String → Option String
  network : Http.Network σ

/-- What a command has to do with: the files, the world outside, and what it has logged. -/
structure State (σ : Type) where
  files : FileTree
  world : σ
  log : List Log.Entry

/-- Work that may fail. -/
abbrev Work (σ : Type) := ExceptT Failure (StateM (State σ))

variable {σ : Type}

def log (e : Log.Entry) : Work σ Unit := modify fun s => { s with log := s.log ++ [e] }

/-- Lets the world outside act. -/
def ask {α : Type} (x : StateM σ α) : Work σ α := do
  let s ← get
  let (a, world) := x s.world
  set { s with world }
  return a

/-- The program itself, and its parts, as they are named in logs. -/
def program : String := "forge"

def version : String := "0.1.0"

def synthesisPart : String := "forge_token::synthesis"

def compilerPart : String := "forge_token::compiler"

/-! ## Drafts in files -/

/-- The configuration of the draft in a file. -/
def readConfig (path : String) : Work σ TokenConfig := do
  let fail (what cause : String) : Work σ TokenConfig := throw ⟨what ++ " " ++ path, [cause]⟩
  match (← get).files.read (.ofText path) with
  | .error fault => fail "failed to read" fault.message
  | .ok s =>
    match Draft.ofText s with
    | .error fault => fail "failed to parse" fault.message
    | .ok d =>
      match d.validate with
      | .error e => fail "invalid token configuration in" e.message
      | .ok c => return c

/-- The source of a configuration. -/
def synthesize (c : TokenConfig) : Work σ String := do
  let u := c.sourceUnit
  log ⟨.debug, synthesisPart, "synthesized contract source",
    [("contract", u.name), ("imports", Text.decimal u.imports.length),
      ("bases", Text.decimal u.bases.length), ("functions", Text.decimal u.functions.length)]⟩
  return c.source

/-! ## Commands -/

/-- A text with blanks after it, up to a width. -/
def padRight (width : Nat) (s : String) : String :=
  s ++ String.ofList (List.replicate (width - s.length) ' ')

/-- A text with blanks before it, up to a width. -/
def padLeft (width : Nat) (s : String) : String :=
  String.ofList (List.replicate (width - s.length) ' ') ++ s

/-- The line of a network in the list. -/
def networkLine (n : Network) : String :=
  padRight 16 n.slug ++ " " ++ padLeft 10 (Text.decimal n.chainId) ++ "  "
    ++ padRight 8 (if n.isTestnet then "testnet" else "mainnet") ++ " " ++ n.label ++ "\n"

/-- Compiles a source, and tells what the compiler was asked and gave. -/
def compileSource (place : Place σ) (service : CompilerService) (source : String) :
    Work σ Artifact := do
  log ⟨.debug, compilerPart, "compiler request", [("url", service.compileUrl)]⟩
  match ← ask ((service.onNetwork place.network).compile source) with
  | .error e => throw ⟨"compilation failed", e.message :: e.causes⟩
  | .ok a =>
    log ⟨.debug, compilerPart, "compiled contract",
      [("abi_items", Text.decimal a.abi.size), ("bytecode_bytes", Text.decimal a.size)]⟩
    return a

/-- What is told of a compiled token. -/
def summary (c : TokenConfig) (a : Artifact) : String :=
  "contract:  " ++ c.contractName ++ "\nnetwork:   " ++ c.network.label
    ++ "\nabi items: " ++ Text.decimal a.abi.size
    ++ "\nbytecode:  " ++ Text.decimal a.size ++ " bytes\n"

/-- The text that a command writes. -/
def perform (place : Place σ) (settings : Settings) : Command → Work σ String
  | synth path => do synthesize (← readConfig path)
  | compile path => do
    let c ← readConfig path
    let source ← synthesize c
    let service := CompilerService.ofUrl settings.compilerUrl
    log ⟨.info, program, "compiling", [("url", service.baseUrl), ("contract", c.contractName)]⟩
    return summary c (← compileSource place service source)
  | networks => return String.join (Network.all.map networkLine)

/-! ## The program -/

/-- Work on files alone. -/
def onFiles {ε α : Type} (failure : ε → Failure) (x : ExceptT ε (StateM FileTree) α) :
    Work σ α := do
  let s ← get
  let (result, files) := x.run s.files
  set { s with files }
  match result with
  | .ok a => return a
  | .error e => throw (failure e)

/-- The settings of the home directory. -/
def loadSettings (place : Place σ) : Work σ Settings :=
  onFiles (fun e => ⟨e.message, [e.cause]⟩) (Settings.load place.environment place.home)

/-- Makes the directory of the logs. -/
def openLogs (place : Place σ) : Work σ Unit :=
  onFiles (fun fault => ⟨"failed to initialize logging", [fault.message]⟩)
    (FileTree.ensureDirectories (Settings.logsDirectory place.home))

/-- Runs a command, and logs how it failed. -/
def runWith (place : Place σ) (settings : Settings) (c : Command) : Work σ String := do
  openLogs place
  log ⟨.info, program, "Starting TokenForge v" ++ version, []⟩
  tryCatch (perform place settings c) fun f => do
    log ⟨.error, program, c.text ++ " failed: " ++ f.line, []⟩
    throw f

/-- The filter where neither the environment nor the settings have a usable one. -/
def defaultFilter : String := "info,forge_app=debug,forge_token=debug,forge_core=debug"

/-- The filter of the settings, if they have a usable one.  Without directives it shows errors. -/
def settingsFilter? (settings : Settings) : Option Log.Filter :=
  let level := Text.trim settings.logLevel
  if level.isEmpty then none
  else (Log.Filter.ofText? level).map fun f => if f.isEmpty then .upTo .error else f

/-- The filter of the environment, else that of the settings, else the default one. -/
def filter (environment : String → Option String) (settings : Settings) : Log.Filter :=
  match (environment "RUST_LOG").bind Log.Filter.ofText?, settingsFilter? settings with
  | some f, _ => f
  | none, some f => f
  | none, none => (Log.Filter.ofText? defaultFilter).getD []

/-- What the program leaves behind. -/
structure Outcome where
  exitCode : Nat
  output : String
  /-- The entries of the log that are shown. -/
  log : List Log.Entry
  /-- The lines that tell of the failure. -/
  report : List String
deriving DecidableEq, Repr

/-- What is told to who asks for help. -/
def usage : String :=
  "Token contract synthesis and compilation\n\nUsage: forge <COMMAND>\n\nCommands:\n"
    ++ "  synth <CONFIG>    Print the generated contract source\n"
    ++ "  compile <CONFIG>  Synthesize and compile through the compiler service\n"
    ++ "  networks          List supported networks\n"

/-- Runs a command from the loading of the settings on. -/
def launch (place : Place σ) (c : Command) : StateM (State σ) Outcome := do
  match ← (loadSettings place).run with
  | .error f => return ⟨1, "", [], f.report⟩
  | .ok settings =>
    let result ← (runWith place settings c).run
    let shown := (← get).log.filter (filter place.environment settings).shows
    match result with
    | .ok output => return ⟨0, output, shown, []⟩
    | .error f => return ⟨1, "", shown, f.report⟩

/-- Runs the program with arguments. -/
def run (place : Place σ) (args : List String) : StateM (State σ) Outcome :=
  match Request.ofArgs args with
  | .command c => launch place c
  | .version => return ⟨0, program ++ " " ++ version ++ "\n", [], []⟩
  | .help => return ⟨0, usage, [], []⟩
  | .misused => return ⟨2, "", [], []⟩

end Command

end TokenLaunch
