import TokenLaunch.Creation
import TokenLaunch.Proofs.Journal

/-!
# Courses of creations

The ways in which a contract comes to be created, or fails to be: each call is made once, after the
answer to the call before it.
-/

namespace TokenLaunch.Creation

open Session

variable {σ : Type}

/-- The ways of sending a creation and waiting until it is mined. -/
inductive Submits (signer : Signer σ) (a : Artifact) (c : TokenConfig) (w : σ) :
    List Act → Except DeploymentError Mined → σ → Prop
  | noAddress {e : DeploymentError} {w₁ : σ} (haddress : signer.address w = (.error e, w₁)) :
      Submits signer a c w [.askAddress] (.error e) w₁
  | unsent {sender : String} {e : DeploymentError} {w₁ w₂ : σ}
      (haddress : signer.address w = (.ok sender, w₁))
      (hdeploy : signer.deploy a.abi a.bytecode (ConstructorArgs.ofConfig c).values w₁ =
        (.error e, w₂)) :
      Submits signer a c w
        [.askAddress, .deploy a.abi a.bytecode (ConstructorArgs.ofConfig c).values] (.error e) w₂
  | unmined {sender : String} {txHash : Option String} {e : DeploymentError} {w₁ w₂ w₃ : σ}
      (haddress : signer.address w = (.ok sender, w₁))
      (hdeploy : signer.deploy a.abi a.bytecode (ConstructorArgs.ofConfig c).values w₁ =
        (.ok txHash, w₂))
      (hmined : signer.mined w₂ = (.error e, w₃)) :
      Submits signer a c w
        [.askAddress, .deploy a.abi a.bytecode (ConstructorArgs.ofConfig c).values, .awaitMined]
        (.error e) w₃
  | mined {sender address : String} {txHash : Option String} {w₁ w₂ w₃ : σ}
      (haddress : signer.address w = (.ok sender, w₁))
      (hdeploy : signer.deploy a.abi a.bytecode (ConstructorArgs.ofConfig c).values w₁ =
        (.ok txHash, w₂))
      (hmined : signer.mined w₂ = (.ok address, w₃)) :
      Submits signer a c w
        [.askAddress, .deploy a.abi a.bytecode (ConstructorArgs.ofConfig c).values, .awaitMined]
        (.ok ⟨address, txHash, ConstructorArgs.ofConfig c⟩) w₃

theorem exists_submits (signer : Signer σ) (a : Artifact) (c : TokenConfig)
    (held : List String) (w : σ) :
    ∃ acts r w', Does (submit signer a c).run held w acts r w' ∧
      Submits signer a c w acts r w' := by
  unfold submit
  rcases haddress : signer.address w with ⟨e | sender, w₁⟩
  · exact ⟨_, _, w₁, Does.bind_error (does_call haddress), .noAddress haddress⟩
  rcases hdeploy : signer.deploy a.abi a.bytecode (ConstructorArgs.ofConfig c).values w₁ with
    ⟨e | txHash, w₂⟩
  · exact ⟨_, _, w₂, Does.bind_ok (does_call haddress) (Does.bind_error (does_call hdeploy)),
      .unsent haddress hdeploy⟩
  rcases hmined : signer.mined w₂ with ⟨e | address, w₃⟩
  · exact ⟨_, _, w₃, Does.bind_ok (does_call haddress) (Does.bind_ok (does_call hdeploy)
      (Does.bind_error (does_call hmined))), .unmined haddress hdeploy hmined⟩
  · exact ⟨_, _, w₃, Does.bind_ok (does_call haddress) (Does.bind_ok (does_call hdeploy)
      (Does.bind_ok (does_call hmined) (does_pure _))), .mined haddress hdeploy hmined⟩

/-- The ways of waiting for confirmations. -/
inductive Confirms (signer : Signer σ) (confirmations : Nat) (m : Mined) (w : σ) :
    List Act → Except DeploymentError Confirmed → σ → Prop
  | failed {e : DeploymentError} {w₁ : σ}
      (hconfirmed : signer.confirmed confirmations w = (.error e, w₁)) :
      Confirms signer confirmations m w [.awaitConfirmed confirmations] (.error e) w₁
  | noReceipt {w₁ : σ} (hconfirmed : signer.confirmed confirmations w = (.ok none, w₁)) :
      Confirms signer confirmations m w [.awaitConfirmed confirmations]
        (.error (.receiptUnavailable m.address confirmations)) w₁
  | confirmed {receipt : Receipt} {w₁ : σ}
      (hconfirmed : signer.confirmed confirmations w = (.ok (some receipt), w₁)) :
      Confirms signer confirmations m w [.awaitConfirmed confirmations]
        (.ok ⟨m.address, m.txHash, m.args, receipt⟩) w₁

theorem exists_confirms (signer : Signer σ) (confirmations : Nat) (m : Mined)
    (held : List String) (w : σ) :
    ∃ acts r w', Does (confirm signer confirmations m).run held w acts r w' ∧
      Confirms signer confirmations m w acts r w' := by
  unfold confirm
  rcases hconfirmed : signer.confirmed confirmations w with ⟨e | _ | receipt, w₁⟩
  · exact ⟨_, _, w₁, Does.bind_error (does_call hconfirmed), .failed hconfirmed⟩
  · exact ⟨_, _, w₁, Does.bind_ok (does_call hconfirmed) (does_pure _), .noReceipt hconfirmed⟩
  · exact ⟨_, _, w₁, Does.bind_ok (does_call hconfirmed) (does_pure _), .confirmed hconfirmed⟩

end TokenLaunch.Creation
