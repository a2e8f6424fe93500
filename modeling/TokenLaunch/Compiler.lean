import TokenLaunch.Artifact
import TokenLaunch.Http

/-!
# Compilers

The service that compiles sources and puts their imports into one text.
-/

namespace TokenLaunch

inductive CompilationError where
  /-- The service answered, but not with success. -/
  | refused (status : Nat) (payload : String)
  | transport (fault : Http.Fault)
  | malformed (reason : String)
deriving DecidableEq, Repr

namespace CompilationError

def message : CompilationError → String
  | refused status payload =>
    "Compiler service error (" ++ Http.statusText status ++ "): " ++ payload
  | transport fault => "Compiler request failed: " ++ fault.message
  | malformed reason => "Malformed compiler response: " ++ reason

/-- What an error comes from, the nearest cause first. -/
def causes : CompilationError → List String
  | transport fault => fault.message :: fault.causes
  | _ => []

end CompilationError

/-- A compiler that acts on a world of states. -/
structure Compiler (σ : Type) where
  compile : String → StateM σ (Except CompilationError Artifact)
  flatten : String → StateM σ (Except CompilationError String)

/-- A compiler service: its address without slashes at its end. -/
structure CompilerService where
  baseUrl : String
deriving DecidableEq, Repr

namespace CompilerService

/-- The service under an address. -/
def ofUrl (url : String) : CompilerService := ⟨Text.dropTrailing '/' url⟩

/-- The address of the service on this machine. -/
def defaultUrl : String := "http://localhost:3001"

def compileUrl (s : CompilerService) : String := s.baseUrl ++ "/api/compile"

def flattenUrl (s : CompilerService) : String := s.baseUrl ++ "/api/flatten"

/-- The request that sends a source to an address. -/
def request (url source : String) : Except Http.Fault Http.Request :=
  Http.request .post url []
    (some ⟨"application/json", (Json.obj [("sourceCode", .str source)]).compact⟩)

/-- What a response holds, if it is a success of the wanted shape. -/
def read {α : Type} (d : Json.Decoder α) :
    Except Http.Fault Http.Response → Except CompilationError α
  | .error fault => .error (.transport fault)
  | .ok r =>
    if Http.isSuccess r.status then
      (Json.Decoder.run d r.body).mapError fun fault => .malformed fault.message
    else .error (.refused r.status r.body)

/-- Refuses an artifact without code. -/
def checkCode : Except CompilationError Artifact → Except CompilationError Artifact
  | .error e => .error e
  | .ok a => if a.isEmpty then .error (.malformed "compiler returned empty bytecode") else .ok a

/-- The one text that a response holds. -/
def flattened : Json.Decoder String := fun r => do
  Json.Decoder.required "flattenedCode" Json.Decoder.text
    (← Json.Decoder.record [.of "flattenedCode" Json.Decoder.text] r)

/-- The service over a network: one request for each source. -/
def onNetwork {σ : Type} (s : CompilerService) (net : Http.Network σ) : Compiler σ where
  compile source := do
    return checkCode (read Artifact.decoder (← net.send (request s.compileUrl source)))
  flatten source := do
    return read flattened (← net.send (request s.flattenUrl source))

end CompilerService

end TokenLaunch
