import TokenLaunch.Launch
import TokenLaunch.Proofs.Creation
import TokenLaunch.Proofs.Verification

/-!
# Courses of launches

The ways a launch can take, from its draft to its end, whatever its services answer.
-/

namespace TokenLaunch.Launcher

open Session Verification

variable {σ : Type} {held : List String}

/-- What a launch writes at a phase of its verification. -/
def told : Phase → List Act
  | .polling attempt maxAttempts => [.event (.polling attempt maxAttempts)]
  | _ => []

theorem notes_tell : Verifier.Notes (σ := σ) tell told := by
  intro p held w
  cases p with
  | submitting => exact does_pure ()
  | submitted guid => exact does_pure ()
  | polling attempt maxAttempts => exact does_act _

/-- What a launch has verified. -/
def target (c : TokenConfig) (source : String) (a : Artifact) (contract : Creation.Confirmed)
    (endpoint : Endpoint) : Target where
  contractAddress := contract.address
  contractName := c.contractName
  source := source
  abi := a.abi
  arguments := contract.args.values
  endpoint := endpoint

/-- The ways of verifying the contract of a launch. -/
inductive Verifies (l : Launcher σ) (c : TokenConfig) (source : String) (a : Artifact)
    (contract : Creation.Confirmed) (network : Option Network) (held : List String) (w : σ) :
    List Act → Report → σ → Prop
  | skipped (hendpoint : network.bind (l.explorers.endpoint? l.keys) = none) :
      Verifies l c source a contract network held w [] .skipped w
  | verified {endpoint : Endpoint} {acts : List Act} {report : Report} {w₁ : σ}
      (hendpoint : network.bind (l.explorers.endpoint? l.keys) = some endpoint)
      (hverify : l.verifier.Verifies (target c source a contract endpoint) told held w acts report
        w₁) :
      Verifies l c source a contract network held w
        (.event (.verifying contract.address) :: acts) report w₁

theorem exists_verifies (l : Launcher σ) (c : TokenConfig) (source : String) (a : Artifact)
    (contract : Creation.Confirmed) (network : Option Network) (held : List String) (w : σ) :
    ∃ acts report w', Does (l.verify c source a contract network) held w acts report w' ∧
      l.Verifies c source a contract network held w acts report w' := by
  unfold verify
  cases hendpoint : network.bind (l.explorers.endpoint? l.keys) with
  | none => exact ⟨[], _, w, does_pure _, .skipped hendpoint⟩
  | some endpoint =>
    obtain ⟨acts, report, w₁, hdoes, hverify⟩ :=
      l.verifier.exists_verifies notes_tell (target c source a contract endpoint) held w
    exact ⟨_, report, w₁, (does_act _).bind hdoes, .verified hendpoint hverify⟩

/-- The identifier of the chain, where the signer answers or fails. -/
def reportedChain (c : TokenConfig) : Except DeploymentError Nat → Nat
  | .ok id => id
  | .error _ => c.network.chainId

theorem does_chainId {signer : Signer σ} {c : TokenConfig} {answer : Except DeploymentError Nat}
    {w w₁ : σ} (h : signer.chainId w = (answer, w₁)) :
    Does (chainId signer c) held w [] (reportedChain c answer) w₁ := by
  unfold chainId
  refine (does_ask h).bind_pure ?_
  cases answer <;> rfl

/-- The ways of a launch up to the event that tells how it ended. -/
inductive Executes (l : Launcher σ) (signer : Signer σ) (c : TokenConfig) (held : List String)
    (w : σ) : List Act → Except LaunchError Deployment → σ → Prop
  | uncompiled {e : CompilationError} {w₁ : σ}
      (hcompile : l.verifier.compiler.compile c.source w = (.error e, w₁)) :
      Executes l signer c held w [.event .preparing, .compile c.source] (.error (.compilation e)) w₁
  | uncreated {a : Artifact} {e : DeploymentError} {w₁ w₂ : σ} {sent : List Act}
      (hcompile : l.verifier.compiler.compile c.source w = (.ok a, w₁))
      (hsubmit : Creation.Submits signer a c w₁ sent (.error e) w₂) :
      Executes l signer c held w
        (.event .preparing :: .compile c.source :: .event .deploying :: sent)
        (.error (.deployment e)) w₂
  | unconfirmed {a : Artifact} {m : Creation.Mined} {e : DeploymentError} {w₁ w₂ w₃ : σ}
      {sent awaited : List Act} (hcompile : l.verifier.compiler.compile c.source w = (.ok a, w₁))
      (hsubmit : Creation.Submits signer a c w₁ sent (.ok m) w₂)
      (hconfirm : Creation.Confirms signer l.confirmations m w₂ awaited (.error e) w₃) :
      Executes l signer c held w
        (.event .preparing :: .compile c.source :: .event .deploying ::
          (sent ++ .event (.confirming m.address) :: awaited))
        (.error (.deployment e)) w₃
  | finished {a : Artifact} {m : Creation.Mined} {contract : Creation.Confirmed}
      {answer : Except DeploymentError Nat} {report : Report} {w₁ w₂ w₃ w₄ w₅ : σ}
      {sent awaited verified : List Act}
      (hcompile : l.verifier.compiler.compile c.source w = (.ok a, w₁))
      (hsubmit : Creation.Submits signer a c w₁ sent (.ok m) w₂)
      (hconfirm : Creation.Confirms signer l.confirmations m w₂ awaited (.ok contract) w₃)
      (hchain : signer.chainId w₃ = (answer, w₄))
      (hverify : l.Verifies c c.source a contract (Network.ofChainId? (reportedChain c answer)) held
        w₄ verified report w₅) :
      Executes l signer c held w
        (.event .preparing :: .compile c.source :: .event .deploying ::
          (sent ++ .event (.confirming m.address) :: (awaited ++ verified)))
        (.ok ⟨contract.address, reportedChain c answer, Network.ofChainId? (reportedChain c answer),
          contract.txHash, report.state⟩) w₅

theorem exists_executes (l : Launcher σ) (signer : Signer σ) (c : TokenConfig)
    (held : List String) (w : σ) :
    ∃ acts r w', Does (l.execute signer c).run held w acts r w' ∧
      l.Executes signer c held w acts r w' := by
  have hannounce (e : Event) (w : σ) : Does (announce e).run held w [.event e] (.ok ()) w :=
    (does_act _).lift
  unfold execute
  rcases hcompile : l.verifier.compiler.compile c.source w with ⟨e | a, w₁⟩
  · have hfail : Does (l.compile c.source).run held w [.compile c.source] (.error (.compilation e))
        w₁ := (does_call hcompile).bind_pure rfl
    exact ⟨_, _, w₁, Does.bind_ok (hannounce _ w) (Does.bind_error hfail), .uncompiled hcompile⟩
  have hcompiled : Does (l.compile c.source).run held w [.compile c.source] (.ok a) w₁ :=
    (does_call hcompile).bind_pure rfl
  obtain ⟨sent, r, w₂, hsent, hsubmit⟩ := Creation.exists_submits signer a c held w₁
  rcases r with e | m
  · exact ⟨_, _, w₂, Does.bind_ok (hannounce _ w) (Does.bind_ok hcompiled
      (Does.bind_ok (hannounce _ w₁) (Does.bind_error hsent.adapt))), .uncreated hcompile hsubmit⟩
  obtain ⟨awaited, r, w₃, hawaited, hconfirm⟩ :=
    Creation.exists_confirms signer l.confirmations m held w₂
  rcases r with e | contract
  · exact ⟨_, _, w₃, Does.bind_ok (hannounce _ w) (Does.bind_ok hcompiled
      (Does.bind_ok (hannounce _ w₁) (Does.bind_ok hsent.adapt
        (Does.bind_ok (hannounce _ w₂) (Does.bind_error hawaited.adapt))))),
      .unconfirmed hcompile hsubmit hconfirm⟩
  rcases hchain : signer.chainId w₃ with ⟨answer, w₄⟩
  obtain ⟨verified, report, w₅, hverified, hverify⟩ :=
    l.exists_verifies c c.source a contract (Network.ofChainId? (reportedChain c answer)) held w₄
  refine ⟨_, _, w₅, ?_, .finished hcompile hsubmit hconfirm hchain hverify⟩
  refine Does.bind_ok (hannounce _ w) (Does.bind_ok hcompiled
    (Does.bind_ok (hannounce _ w₁) (Does.bind_ok hsent.adapt
      (Does.bind_ok (hannounce _ w₂) (Does.bind_ok hawaited.adapt ?_)))))
  refine Does.bind_ok (does_chainId hchain).lift ?_
  rw [← List.append_nil verified]
  exact Does.bind_ok hverified.lift (does_pure _)

/-- What a launch tells when it ends. -/
def ending : Except LaunchError Deployment → Event
  | .ok d => .done d
  | .error e => .error e.message

theorem does_run {l : Launcher σ} {signer : Signer σ} {c : TokenConfig} {w w₁ : σ} {acts : List Act}
    {r : Except LaunchError Deployment} (h : Does (l.execute signer c).run held w acts r w₁) :
    Does (l.run signer c) held w (acts ++ [.event (ending r)]) r w₁ := by
  have hend : Does (emit (ending r) : Run σ Unit) held w₁ [.event (ending r)] () w₁ := does_act _
  unfold run
  cases r with
  | error e => exact h.bind (hend.bind_pure rfl)
  | ok d => exact h.bind (hend.bind_pure rfl)

/-- The ways of the launch of a draft. -/
inductive Launches (l : Launcher σ) (signer : Signer σ) (d : Draft) (held : List String) (w : σ) :
    List Act → Except LaunchError Deployment → σ → Prop
  | invalid {e : ConfigError} (hd : d.validate = .error e) :
      Launches l signer d held w [.event (ending (.error (.config e)))] (.error (.config e)) w
  | launched {c : TokenConfig} {acts : List Act} {r : Except LaunchError Deployment} {w₁ : σ}
      (hd : d.validate = .ok c) (hexecute : l.Executes signer c held w acts r w₁) :
      Launches l signer d held w (acts ++ [.event (ending r)]) r w₁

theorem exists_launches (l : Launcher σ) (signer : Signer σ) (d : Draft)
    (held : List String) (w : σ) :
    ∃ acts r w', Does (l.runDraft signer d) held w acts r w' ∧
      l.Launches signer d held w acts r w' := by
  unfold runDraft
  cases hd : d.validate with
  | error e => exact ⟨_, _, w, (does_act _).bind_pure rfl, .invalid hd⟩
  | ok c =>
    obtain ⟨acts, r, w₁, hdoes, hexecute⟩ := l.exists_executes signer c held w
    exact ⟨_, r, w₁, does_run hdoes, .launched hd hexecute⟩

end TokenLaunch.Launcher
