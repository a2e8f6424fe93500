import TokenLaunch.ConstructorArgs
import TokenLaunch.Abi.Interface

/-!
# Signers

The wallet that creates contracts: it holds the keys, sends the transaction and follows it.
-/

namespace TokenLaunch

inductive DeploymentError where
  | signerRejected (text : String)
  | insufficientFunds (text : String)
  | transaction (text : String)
  | receiptUnavailable (address : String) (confirmations : Nat)
deriving DecidableEq, Repr

namespace DeploymentError

def message : DeploymentError → String
  | signerRejected text => "Signer rejected the transaction: " ++ text
  | insufficientFunds text => "Insufficient funds: " ++ text
  | transaction text => "Deployment transaction failed: " ++ text
  | receiptUnavailable address confirmations =>
    "No receipt for contract " ++ address ++ " after " ++ Text.decimal confirmations
      ++ " confirmations"

/-- The address of the contract that an error names. -/
def contractAddress? : DeploymentError → Option String
  | receiptUnavailable address _ => some address
  | _ => none

end DeploymentError

structure Receipt where
  blockNumber : Nat
  gasUsed : Nat
  confirmations : Nat
deriving DecidableEq, Repr

/-- A wallet that acts on a world of states. -/
structure Signer (σ : Type) where
  address : StateM σ (Except DeploymentError String)
  /-- Sends the creation with the interface, the code and the arguments of a contract; gives the
  hash of the transaction, if it has one. -/
  deploy : Abi.Interface → String → List Abi.Value →
    StateM σ (Except DeploymentError (Option String))
  /-- The address of the contract once the creation is mined. -/
  mined : StateM σ (Except DeploymentError String)
  /-- The receipt after a number of confirmations, if there is one. -/
  confirmed : Nat → StateM σ (Except DeploymentError (Option Receipt))
  chainId : StateM σ (Except DeploymentError Nat)

end TokenLaunch
