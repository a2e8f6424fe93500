import TokenLaunch.Session

/-!
# Creating contracts

The creation of a token through a signer: it is sent once, mined, and confirmed.
-/

namespace TokenLaunch.Creation

open Session

variable {σ : Type}

/-- A created contract that is not confirmed yet. -/
structure Mined where
  address : String
  txHash : Option String
  args : ConstructorArgs
deriving DecidableEq, Repr

/-- A confirmed contract. -/
structure Confirmed where
  address : String
  txHash : Option String
  args : ConstructorArgs
  receipt : Receipt
deriving DecidableEq, Repr

/-- Confirmations that are awaited where nothing else is wanted. -/
def defaultConfirmations : Nat := 2

/-- Sends the creation and waits until it is mined. -/
def submit (signer : Signer σ) (a : Artifact) (c : TokenConfig) :
    ExceptT DeploymentError (Run σ) Mined := do
  let args := ConstructorArgs.ofConfig c
  let _ ← ExceptT.mk (call .askAddress signer.address)
  let txHash ← ExceptT.mk (call (.deploy a.abi a.bytecode args.values)
    (signer.deploy a.abi a.bytecode args.values))
  let address ← ExceptT.mk (call .awaitMined signer.mined)
  return { address, txHash, args }

/-- Waits for confirmations; a contract without a receipt is an error that names it. -/
def confirm (signer : Signer σ) (confirmations : Nat) (m : Mined) :
    ExceptT DeploymentError (Run σ) Confirmed := do
  match ← ExceptT.mk (call (.awaitConfirmed confirmations) (signer.confirmed confirmations)) with
  | some receipt => return { address := m.address, txHash := m.txHash, args := m.args, receipt }
  | none => throw (.receiptUnavailable m.address confirmations)

/-- Sends the creation and waits for its confirmations. -/
def create (signer : Signer σ) (confirmations : Nat) (a : Artifact) (c : TokenConfig) :
    ExceptT DeploymentError (Run σ) Confirmed := do
  confirm signer confirmations (← submit signer a c)

end TokenLaunch.Creation
