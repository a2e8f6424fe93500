import TokenLaunch.ApiKeys
import TokenLaunch.Compiler
import TokenLaunch.Creation
import TokenLaunch.FileTree
import TokenLaunch.Polling

/-!
# Settings

What a user has chosen once for all launches.  The settings are kept in a file of the home
directory; the keys of explorers are not, they come from the environment.
-/

namespace TokenLaunch

structure Settings where
  compilerUrl : String
  /-- Times are in seconds. -/
  requestTimeout : Nat
  confirmations : Nat
  settleDelay : Nat
  pollInterval : Nat
  maxPollAttempts : Nat
  /-- Which messages are logged. -/
  logLevel : String
  keys : ApiKeys
deriving DecidableEq, Repr

namespace Settings

def default : Settings where
  compilerUrl := CompilerService.defaultUrl
  requestTimeout := 30
  confirmations := Creation.defaultConfirmations
  settleDelay := 30
  pollInterval := 5
  maxPollAttempts := 10
  logLevel := "info"
  keys := ApiKeys.empty

def policy (s : Settings) : Polling.Policy := ⟨s.maxPollAttempts, s.pollInterval⟩

/-! ## JSON -/

open Json Json.Decoder

/-- A number of 64 bits. -/
def word : Decoder Nat := natBelow (twoTo 64)

/-- A number of 32 bits. -/
def halfWord : Decoder Nat := natBelow (twoTo 32)

def fields : List Field :=
  [.of "compiler_url" text, .of "request_timeout_secs" word, .of "confirmations" word,
    .of "settle_delay_secs" word, .of "poll_interval_secs" word,
    .of "max_poll_attempts" halfWord, .of "log_level" text]

/-- Whatever is left out is as by default; there are no keys. -/
def decoder : Decoder Settings := fun r => do
  let values ← record fields r
  let compilerUrl ← withDefault "compiler_url" text default.compilerUrl values
  let requestTimeout ← withDefault "request_timeout_secs" word default.requestTimeout values
  let confirmations ← withDefault "confirmations" word default.confirmations values
  let settleDelay ← withDefault "settle_delay_secs" word default.settleDelay values
  let pollInterval ← withDefault "poll_interval_secs" word default.pollInterval values
  let maxPollAttempts ← withDefault "max_poll_attempts" halfWord default.maxPollAttempts values
  let logLevel ← withDefault "log_level" text default.logLevel values
  return { compilerUrl, requestTimeout, confirmations, settleDelay, pollInterval, maxPollAttempts,
           logLevel, keys := ApiKeys.empty }

def ofText (s : String) : Except Json.Fault Settings := Decoder.run decoder s

/-- All but the keys. -/
def toJson (s : Settings) : Json :=
  .obj [("compiler_url", .str s.compilerUrl), ("request_timeout_secs", .nat s.requestTimeout),
    ("confirmations", .nat s.confirmations), ("settle_delay_secs", .nat s.settleDelay),
    ("poll_interval_secs", .nat s.pollInterval), ("max_poll_attempts", .nat s.maxPollAttempts),
    ("log_level", .str s.logLevel)]

/-- The text of the file. -/
def text (s : Settings) : String := s.toJson.pretty

/-! ## Files -/

/-- Why settings cannot be loaded. -/
inductive LoadError where
  | makeDirectory (path : FilePath) (fault : FileTree.Fault)
  | read (path : FilePath) (fault : FileTree.Fault)
  | parse (fault : Json.Fault)
  | write (path : FilePath) (fault : FileTree.Fault)
deriving DecidableEq, Repr

namespace LoadError

def message : LoadError → String
  | makeDirectory path _ => "Failed to create directory: " ++ path.text
  | read path _ => "Failed to read config: " ++ path.text
  | parse _ => "Failed to parse config.json"
  | write path _ => "Failed to write config: " ++ path.text

def cause : LoadError → String
  | makeDirectory _ fault => fault.message
  | read _ fault => fault.message
  | parse fault => fault.message
  | write _ fault => fault.message

end LoadError

/-- Work on files that may fail. -/
abbrev Files := ExceptT LoadError (StateM FileTree)

/-- The directory of the program in a home directory. -/
def directory (home : FilePath) : FilePath := home.join (.ofText ".tokenforge")

def logsDirectory (home : FilePath) : FilePath := (directory home).join (.ofText "logs")

/-- The file of the settings in a home directory. -/
def file (home : FilePath) : FilePath := (directory home).join (.ofText "config.json")

/-- Makes a directory and all above it. -/
def makeDirectories (p : FilePath) : Files Unit :=
  (FileTree.ensureDirectories p).adapt (.makeDirectory p)

/-- Makes a directory if nothing stands in its place. -/
def ensureDirectory (p : FilePath) : Files Unit := do
  if (← get).stands p then return () else makeDirectories p

/-- Makes the directories of the program where nothing stands. -/
def ensureDirectories (home : FilePath) : Files Unit := do
  ensureDirectory (directory home)
  ensureDirectory (logsDirectory home)

/-- Writes the settings into a file, whose directory is made if need be. -/
def save (s : Settings) (p : FilePath) : Files Unit := do
  match p.parent? with
  | some above => makeDirectories above
  | none => pure ()
  (FileTree.write p s.text).adapt (.write p)

/-- The settings in a file; the default ones, which are saved, where there is none. -/
def loadFile (p : FilePath) : Files Settings := do
  let t ← get
  if t.stands p then
    match t.read p with
    | .error fault => throw (.read p fault)
    | .ok s =>
      match ofText s with
      | .ok settings => return settings
      | .error fault => throw (.parse fault)
  else
    default.save p
    return default

/-- The settings in a file, with the keys of an environment. -/
def loadFrom (environment : String → Option String) (p : FilePath) : Files Settings := do
  return { ← loadFile p with keys := ApiKeys.ofEnvironment environment }

/-- The settings of a home directory. -/
def load (environment : String → Option String) (home : FilePath) : Files Settings := do
  ensureDirectories home
  loadFrom environment (file home)

end Settings

end TokenLaunch
