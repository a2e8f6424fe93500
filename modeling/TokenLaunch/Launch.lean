import TokenLaunch.Creation
import TokenLaunch.Synthesis
import TokenLaunch.Verification

/-!
# Launches

A token from its draft to its verified contract.  The source is synthesized and compiled, the
contract is created and confirmed, and its source is verified; what comes of the verification is
told, but makes no launch fail.
-/

namespace TokenLaunch

/-- Why a launch failed. -/
inductive LaunchError where
  | config (e : ConfigError)
  | compilation (e : CompilationError)
  | deployment (e : DeploymentError)
deriving DecidableEq, Repr

namespace LaunchError

def message : LaunchError → String
  | config e => e.message
  | compilation e => e.message
  | deployment e => e.message

/-- Whether something may have changed on the chain before the failure. -/
def touchedChain : LaunchError → Bool
  | deployment _ => true
  | _ => false

end LaunchError

/-- What launches go by. -/
structure Launcher (σ : Type) where
  /-- Its compiler compiles the sources, too. -/
  verifier : Verifier σ
  confirmations : Nat
  explorers : Explorers
  keys : ApiKeys

namespace Launcher

open Session Verification

variable {σ : Type}

def compile (l : Launcher σ) (source : String) : ExceptT LaunchError (Run σ) Artifact :=
  ExceptT.mk do
    return (← call (.compile source) (l.verifier.compiler.compile source)).mapError .compilation

/-- The chain of the signer; that of the selected network where it cannot be asked. -/
def chainId (signer : Signer σ) (c : TokenConfig) : Run σ Nat := do
  match ← ask signer.chainId with
  | .ok id => return id
  | .error _ => return c.network.chainId

/-- Tells of the polling of an explorer. -/
def tell : Phase → Run σ Unit
  | .polling attempt maxAttempts => emit (.polling attempt maxAttempts)
  | _ => return ()

/-- Verifies the source of a contract, if its chain has an explorer. -/
def verify (l : Launcher σ) (c : TokenConfig) (source : String) (a : Artifact)
    (contract : Creation.Confirmed) (network : Option Network) : Run σ Report := do
  match network.bind (l.explorers.endpoint? l.keys) with
  | none => return .skipped
  | some endpoint =>
    emit (.verifying contract.address)
    l.verifier.verify
      { contractAddress := contract.address, contractName := c.contractName, source, abi := a.abi,
        arguments := contract.args.values, endpoint }
      tell

/-- Tells something in the course of a launch. -/
def announce (e : Event) : ExceptT LaunchError (Run σ) Unit := ExceptT.lift (emit e)

/-- A launch step by step; the first failure ends it. -/
def execute (l : Launcher σ) (signer : Signer σ) (c : TokenConfig) :
    ExceptT LaunchError (Run σ) Deployment := do
  announce .preparing
  let source := c.source
  let artifact ← l.compile source
  announce .deploying
  let mined ← (Creation.submit signer artifact c).adapt .deployment
  announce (.confirming mined.address)
  let contract ← (Creation.confirm signer l.confirmations mined).adapt .deployment
  let chainId ← chainId signer c
  let network := Network.ofChainId? chainId
  let report ← l.verify c source artifact contract network
  return { contractAddress := contract.address, chainId, network, txHash := contract.txHash,
           state := report.state }

/-- A launch that tells how it ended. -/
def run (l : Launcher σ) (signer : Signer σ) (c : TokenConfig) :
    Run σ (Except LaunchError Deployment) := do
  let result ← (l.execute signer c).run
  match result with
  | .ok d => emit (.done d)
  | .error e => emit (.error e.message)
  return result

/-- The launch of a draft, which has to be valid. -/
def runDraft (l : Launcher σ) (signer : Signer σ) (d : Draft) :
    Run σ (Except LaunchError Deployment) := do
  match d.validate with
  | .error e =>
    emit (.error e.message)
    return .error (.config e)
  | .ok c => l.run signer c

end Launcher

end TokenLaunch
