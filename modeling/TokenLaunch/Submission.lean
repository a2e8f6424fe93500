import TokenLaunch.Compiler
import TokenLaunch.Explorers
import TokenLaunch.VerificationState

/-!
# Submissions to explorers

What an explorer is told of a deployed source, what it answers, and the service that takes it.
-/

namespace TokenLaunch

/-- A source to be verified. -/
structure Submission where
  contractAddress : String
  contractName : String
  /-- Flattened. -/
  sourceCode : String
  /-- Call data in hexadecimal digits without a mark. -/
  constructorArguments : String
  chainId : Nat
deriving DecidableEq, Repr

/-- What becomes of a submission that is not refused. -/
inductive Acceptance where
  /-- It waits under an identifier. -/
  | queued (guid : String)
  | alreadyVerified
deriving DecidableEq, Repr

inductive VerificationError where
  | flatten (e : CompilationError)
  | encoding (reason : String)
  | transport (fault : Http.Fault)
  | rejected (text : String)
  | alreadyInFlight (address : String)
deriving DecidableEq, Repr

def VerificationError.message : VerificationError → String
  | flatten e => "Flattening failed: " ++ e.message
  | encoding reason => "Constructor encoding failed: " ++ reason
  | transport fault => "Explorer request failed: " ++ fault.message
  | rejected text => "Explorer rejected submission: " ++ text
  | alreadyInFlight address => "Verification already in flight for " ++ address

/-- An explorer service that acts on a world of states. -/
structure ExplorerService (σ : Type) where
  submit : Endpoint → Submission → StateM σ (Except VerificationError Acceptance)
  /-- The status of a submission, in words. -/
  status : Endpoint → String → StateM σ (Except VerificationError String)

/-! ## Words of explorers -/

/-- Explorers say in many ways that a source has been verified before. -/
def saysAlreadyVerified (text : String) : Bool := Text.contains (Text.lower text) "already verified"

/-- The state that a status amounts to; none while the explorer is still at work. -/
def classify? (text : String) : Option VerificationState :=
  if text = "Pass - Verified" ∨ saysAlreadyVerified text then some .verified
  else if Text.contains text "Fail" then some .failed
  else none

namespace ExplorerService

/-! ## Answers -/

/-- The body of an answer. -/
structure Answer where
  status : String
  message : String
  result : Json
deriving Repr

namespace Answer

open Json Json.Decoder

/-- A result stands inside the object of the answer. -/
def anyResult : Decoder Json := value (maxDepth - 1)

def fields : List Field := [.of "status" text, .of "message" text, .of "result" anyResult]

/-- Whatever is left out is empty. -/
def decoder : Decoder Answer := fun r => do
  let values ← record fields r
  let status ← withDefault "status" text "" values
  let message ← withDefault "message" text "" values
  let result ← withDefault "result" anyResult .null values
  return { status, message, result }

end Answer

/-- The text of an answer: its result, or its message where there is none. -/
def Answer.text (a : Answer) : String :=
  match a.result with
  | .str s => s
  | .null => a.message
  | j => j.compact

/-- The answer in a response, if it is a success. -/
def read : Except Http.Fault Http.Response → Except VerificationError Answer
  | .error fault => .error (.transport fault)
  | .ok r =>
    if Http.isSuccess r.status then
      (Json.Decoder.run Answer.decoder r.body).mapError fun fault =>
        .rejected ("unparseable response: " ++ fault.message)
    else
      .error (.rejected ("explorer HTTP error (" ++ Http.statusText r.status ++ "): " ++ r.body))

/-- A submission is taken when the status of the answer is one. -/
def acceptance (a : Answer) : Except VerificationError Acceptance :=
  if a.status = "1" then .ok (.queued a.text)
  else if saysAlreadyVerified a.text then .ok .alreadyVerified
  else .error (.rejected a.text)

/-! ## Requests -/

/-- The compiler that generated sources are for. -/
def compilerVersion : String := "v0.8.20+commit.a1b79de6"

/-- The pairs of the form of a submission. -/
def pairs (e : Endpoint) (s : Submission) : List (String × String) :=
  [("apikey", e.apiKey), ("module", "contract"), ("action", "verifysourcecode"),
    ("sourceCode", s.sourceCode), ("contractaddress", s.contractAddress),
    ("codeformat", "solidity-single-file"), ("contractname", s.contractName),
    ("compilerversion", compilerVersion), ("optimizationUsed", "1"), ("runs", "200"),
    ("evmversion", "paris"), ("licenseType", "3"),
    ("constructorArguements", s.constructorArguments), ("chainid", Text.decimal s.chainId)]

def submitRequest (e : Endpoint) (s : Submission) : Except Http.Fault Http.Request :=
  Http.request .post e.apiUrl [("apikey", e.apiKey)]
    (some ⟨"application/x-www-form-urlencoded", Url.form (pairs e s)⟩)

def statusRequest (e : Endpoint) (guid : String) : Except Http.Fault Http.Request :=
  Http.request .get e.apiUrl
    [("apikey", e.apiKey), ("module", "contract"), ("action", "checkverifystatus"), ("guid", guid)]
    none

/-- The explorers over a network: one request for each question. -/
def onNetwork {σ : Type} (net : Http.Network σ) : ExplorerService σ where
  submit e s := do return (read (← net.send (submitRequest e s))).bind acceptance
  status e guid := do return (read (← net.send (statusRequest e guid))).map Answer.text

end ExplorerService

end TokenLaunch
