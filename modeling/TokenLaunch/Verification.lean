import TokenLaunch.Polling
import TokenLaunch.Session

/-!
# Verifications

The source of a deployed contract goes to an explorer, which is asked for its status until it has
come to an end.
-/

namespace TokenLaunch

namespace Verification

/-- What to verify and where. -/
structure Target where
  contractAddress : String
  contractName : String
  source : String
  abi : Abi.Interface
  arguments : List Abi.Value
  endpoint : Endpoint

end Verification

/-- What verifications go by. -/
structure Verifier (σ : Type) where
  compiler : Compiler σ
  explorer : ExplorerService σ
  policy : Polling.Policy
  /-- Seconds between the submission and the first round of polling. -/
  settleDelay : Nat

namespace Verifier

open Verification Session

variable {σ : Type}

/-- What the explorer is told of a target. -/
def submission (t : Target) (sourceCode constructorArguments : String) : Submission where
  contractAddress := t.contractAddress
  contractName := t.contractName
  sourceCode := sourceCode
  constructorArguments := constructorArguments
  chainId := t.endpoint.network.chainId

/-- Encodes the arguments, flattens the source and submits both. -/
def submit (v : Verifier σ) (t : Target) : Run σ (Except VerificationError Acceptance) := do
  match t.abi.encodeArguments t.arguments with
  | .error fault => return .error (.encoding fault.message)
  | .ok encoded =>
    match ← call (.flatten t.source) (v.compiler.flatten t.source) with
    | .error e => return .error (.flatten e)
    | .ok sourceCode =>
      let s := submission t sourceCode encoded
      call (.submit t.endpoint s) (v.explorer.submit t.endpoint s)

/-- Asks the explorer for a status: the state that it amounts to and its words, if the submission
has come to an end.  An explorer that cannot be asked is one still at work. -/
def checkStatus (v : Verifier σ) (t : Target) (guid : String) :
    Run σ (Option (VerificationState × String)) := do
  match ← call (.check t.endpoint guid) (v.explorer.status t.endpoint guid) with
  | .error _ => return none
  | .ok text => return (classify? text).map fun state => (state, text)

/-- Waits for the end of a submission. -/
def follow (v : Verifier σ) (t : Target) (onPhase : Phase → Run σ Unit) (guid : String) :
    Run σ Report := do
  onPhase (.submitted guid)
  sleep v.settleDelay
  let outcome ← Polling.run v.policy sleep fun attempt => do
    onPhase (.polling attempt v.policy.maxAttempts)
    v.checkStatus t guid
  match outcome with
  | .done (state, text) polls => return ⟨state, some guid, polls, some text⟩
  | .exhausted polls => return ⟨.timedOut, some guid, polls, none⟩

/-- A verification from its first phase on. -/
def attempt (v : Verifier σ) (t : Target) (onPhase : Phase → Run σ Unit) : Run σ Report := do
  onPhase .submitting
  match ← v.submit t with
  | .error e => return .early .failed (some e.message)
  | .ok .alreadyVerified => return .early .verified (some "Already Verified")
  | .ok (.queued guid) => v.follow t onPhase guid

/-- Verifies a contract that is not being verified already; what follows a phase may begin other
verifications. -/
def verify (v : Verifier σ) (t : Target) (onPhase : Phase → Run σ Unit) : Run σ Report := do
  if ← claim t.contractAddress then
    let report ← v.attempt t onPhase
    release t.contractAddress
    return report
  else return .refused t.contractAddress

end Verifier

/-! ## Verifications inside verifications -/

namespace Verification

/-- A verification and those that begin inside it, each at the phase with an index. -/
inductive Nest where
  | mk (target : Target) (inner : List (Nat × Nest))

namespace Nest

variable {σ : Type}

mutual
/-- Verifies the target, and what begins inside it as its phases come. -/
def run (v : Verifier σ) : Nest → Run σ Report
  | mk target inner => v.verify target fun p => do
    Session.act (.phase p)
    runAt v p.index inner

/-- Runs those that begin at the phase with an index. -/
def runAt (v : Verifier σ) (index : Nat) : List (Nat × Nest) → Run σ Unit
  | [] => return ()
  | n :: ns => do
    if n.1 = index then do
      Session.act .enter
      let report ← run v n.2
      Session.act (.leave report)
    runAt v index ns
end

end Nest

end Verification

end TokenLaunch
