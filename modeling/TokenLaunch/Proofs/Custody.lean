import TokenLaunch.Proofs.Agreement
import TokenLaunch.Proofs.Source.Name

/-!
# From the creation to the submission

What a launch hands from one of its services to the next.  The explorer is told of the contract
that was created: of the source that was compiled, the arguments that were deployed, the address
that was mined and the chain of the signer, and it is asked for nothing but what it was told.
-/

namespace TokenLaunch

/-- The endpoint for a chain is that of the network on it: its address and its key. -/
theorem Explorers.endpoint_of_bind {t : Explorers} {keys : ApiKeys} {id : Nat} {e : Endpoint}
    (h : (Network.ofChainId? id).bind (t.endpoint? keys) = some e) :
    Network.ofChainId? id = some e.network ∧
      (∃ x, t e.network = some x ∧ e.apiUrl = x.apiUrl) ∧
      e.apiKey = keys.get e.network.keyVariable := by
  obtain ⟨n, hnetwork, hentry⟩ := Option.bind_eq_some_iff.mp h
  obtain ⟨x, hx, rfl⟩ := Option.map_eq_some_iff.mp hentry
  exact ⟨hnetwork, ⟨x, hx, rfl⟩, rfl⟩

/-! ## Submissions -/

namespace Act

/-- The submission that an entry is. -/
def submission? : Act → Option (Endpoint × Submission)
  | submit e s => some (e, s)
  | _ => none

theorem submission?_eq_some_iff {a : Act} {e : Endpoint} {s : Submission} :
    a.submission? = some (e, s) ↔ a = .submit e s := by
  cases a <;> simp [submission?]

/-- What may follow on a submission: pauses, polls, and questions for the status of what was
queued, where it was submitted. -/
inductive Awaits (e : Endpoint) (accepted : Except VerificationError Acceptance) : Act → Prop
  | sleep (seconds : Nat) : Awaits e accepted (.sleep seconds)
  | polling (attempt maxAttempts : Nat) : Awaits e accepted (.event (.polling attempt maxAttempts))
  | check {guid : String} (h : accepted = .ok (.queued guid)) : Awaits e accepted (.check e guid)

end Act

/-- The submissions in a journal. -/
def submissions (acts : List Act) : List (Endpoint × Submission) := acts.filterMap Act.submission?

theorem mem_submissions_iff {acts : List Act} {e : Endpoint} {s : Submission} :
    (e, s) ∈ submissions acts ↔ .submit e s ∈ acts := by
  simp [submissions, List.mem_filterMap, Act.submission?_eq_some_iff]

namespace Verifier

open Verification

variable {σ : Type} {v : Verifier σ} {t : Target} {held : List String} {w w' : σ} {acts : List Act}
  {r : Report} {e : Endpoint} {s : Submission}

/-- A verification that comes to its submission. -/
inductive Submitted (v : Verifier σ) (t : Target) (w : σ) :
    List Act → Endpoint → Submission → Prop
  | mk {encoded code : String} {accepted : Except VerificationError Acceptance} {later : List Act}
      {w₁ w₂ : σ} (hargs : t.abi.encodeArguments t.arguments = .ok encoded)
      (hflat : v.compiler.flatten t.source w = (.ok code, w₁))
      (haccepted : v.explorer.submit t.endpoint (submission t code encoded) w₁ = (accepted, w₂))
      (hlater : ∀ a ∈ later, a.Awaits t.endpoint accepted) :
      Submitted v t w
        (.flatten t.source :: .submit t.endpoint (submission t code encoded) :: later)
        t.endpoint (submission t code encoded)

/-- The rounds of a launch ask for what was queued. -/
theorem awaits_of_asks {guid : String} {o : Polling.Outcome (VerificationState × String)}
    (h : Polling.Asks v.policy (v.Checks t Launcher.told guid) w acts o w') :
    ∀ a ∈ acts, a.Awaits t.endpoint (.ok (.queued guid)) := by
  obtain ⟨polls, -, rfl⟩ := acts_eq_of_asks h
  intro a ha
  obtain ⟨attempt, -, ha⟩ := List.mem_flatMap.mp ha
  simp only [List.mem_cons, List.not_mem_nil, or_false] at ha
  rcases ha with rfl | rfl | rfl
  · exact .sleep _
  · exact .polling _ _
  · exact .check rfl

/-- A submission is answered, and nothing follows on it but what may. -/
theorem Submits.submitted {answer : Except VerificationError Acceptance} {later : List Act}
    (h : v.Submits t w acts answer w') (hlater : ∀ a ∈ later, a.Awaits t.endpoint answer)
    (hmem : .submit e s ∈ acts ++ later) : v.Submitted t w (acts ++ later) e s := by
  have hnone : .submit e s ∉ later := by
    intro ha
    cases hlater _ ha
  have hmem : .submit e s ∈ acts := (List.mem_append.mp hmem).resolve_right hnone
  cases h with
  | unencoded => simp at hmem
  | unflattened => simp at hmem
  | answered hargs hflat hanswer =>
    simp only [List.mem_cons, reduceCtorEq, Act.submit.injEq, List.not_mem_nil, false_or,
      or_false] at hmem
    obtain ⟨rfl, rfl⟩ := hmem
    exact .mk hargs hflat hanswer hlater

theorem Verifies.submitted (h : v.Verifies t Launcher.told held w acts r w')
    (hmem : .submit e s ∈ acts) : v.Submitted t w acts e s := by
  have hearly {sent : List Act} {answer : Except VerificationError Acceptance} {w₁ : σ}
      (hsubmit : v.Submits t w sent answer w₁) (hmem : .submit e s ∈ sent) :
      v.Submitted t w sent e s := by
    rw [← List.append_nil sent] at hmem ⊢
    exact hsubmit.submitted (by simp) hmem
  have hfollow {sent polls : List Act} {guid : String} {w₁ w₂ : σ}
      {o : Polling.Outcome (VerificationState × String)}
      (hsubmit : v.Submits t w sent (.ok (.queued guid)) w₁)
      (hpolls : Polling.Asks v.policy (v.Checks t Launcher.told guid) w₁ polls o w₂)
      (hmem : .submit e s ∈ sent ++ .sleep v.settleDelay :: polls) :
      v.Submitted t w (sent ++ .sleep v.settleDelay :: polls) e s :=
    hsubmit.submitted (List.forall_mem_cons.mpr ⟨.sleep _, awaits_of_asks hpolls⟩) hmem
  cases h with
  | refused => cases hmem
  | admitted _ hattempt =>
    cases hattempt with
    | unsubmitted hsubmit => exact hearly hsubmit hmem
    | alreadyVerified hsubmit => exact hearly hsubmit hmem
    | ended hsubmit hpolls => exact hfollow hsubmit hpolls hmem
    | timedOut hsubmit hpolls => exact hfollow hsubmit hpolls hmem

end Verifier

/-! ## Launches with a submission -/

namespace Launcher

open Session

variable {σ : Type} {l : Launcher σ} {signer : Signer σ} {c : TokenConfig}
  {held : List String} {w w' : σ} {acts : List Act} {r : Except LaunchError Deployment}
  {e : Endpoint} {s : Submission}

/-- What a launch has in hand when it submits: what it has put together itself, and what it was
answered. -/
structure Hand where
  source : String
  artifact : Artifact
  sender : String
  arguments : List Abi.Value
  txHash : Option String
  address : String
  receipt : Receipt
  chain : Except DeploymentError Nat
  code : String
  accepted : Except VerificationError Acceptance

namespace Hand

/-- The services have answered so, one after the other. -/
inductive Answered (h : Hand) (l : Launcher σ) (signer : Signer σ) (e : Endpoint) (s : Submission)
    (w : σ) : Prop
  | mk {w₁ w₂ w₃ w₄ w₅ w₆ w₇ w₈ : σ}
      (hcompile : l.verifier.compiler.compile h.source w = (.ok h.artifact, w₁))
      (haddress : signer.address w₁ = (.ok h.sender, w₂))
      (hdeploy : signer.deploy h.artifact.abi h.artifact.bytecode h.arguments w₂ =
        (.ok h.txHash, w₃))
      (hmined : signer.mined w₃ = (.ok h.address, w₄))
      (hconfirmed : signer.confirmed l.confirmations w₄ = (.ok (some h.receipt), w₅))
      (hchain : signer.chainId w₅ = (h.chain, w₆))
      (hflatten : l.verifier.compiler.flatten h.source w₆ = (.ok h.code, w₇))
      (hsubmit : l.verifier.explorer.submit e s w₇ = (h.accepted, w₈))

/-- The entries of a launch from its beginning to its submission. -/
def course (h : Hand) (l : Launcher σ) (e : Endpoint) (s : Submission) : List Act :=
  [.event .preparing, .compile h.source, .event .deploying, .askAddress,
    .deploy h.artifact.abi h.artifact.bytecode h.arguments, .awaitMined,
    .event (.confirming h.address), .awaitConfirmed l.confirmations, .event (.verifying h.address),
    .flatten h.source, .submit e s]

end Hand

/-- What a launch submits is what it has created. -/
structure Custody (l : Launcher σ) (signer : Signer σ) (c : TokenConfig) (w : σ) (h : Hand)
    (e : Endpoint) (s : Submission) (later : List Act) (d : Deployment) : Prop where
  source : h.source = c.source
  arguments : h.arguments = (ConstructorArgs.ofConfig c).values
  answered : h.Answered l signer e s w
  sourceCode : s.sourceCode = h.code
  constructorArguments : h.artifact.abi.encodeArguments h.arguments = .ok s.constructorArguments
  contractAddress : s.contractAddress = h.address
  deployed : d.contractAddress = h.address
  contractName : Text.contractNames h.source = [s.contractName]
  /-- The chain that the signer has told, or else that of the selected network. -/
  chain : d.chainId = reportedChain c h.chain
  network : d.network = some e.network
  network_chainId : e.network.chainId = d.chainId
  submitted_chainId : s.chainId = d.chainId
  apiUrl : ∃ x, l.explorers e.network = some x ∧ e.apiUrl = x.apiUrl
  apiKey : e.apiKey = l.keys.get e.network.keyVariable
  awaits : ∀ a ∈ later, a.Awaits e h.accepted

/-- A launch that fails has submitted nothing. -/
theorem Executes.exists_ok_of_submit (h : l.Executes signer c held w acts r w')
    (hmem : .submit e s ∈ acts) : ∃ d, r = .ok d := by
  obtain ⟨main, verification, rfl, horderly⟩ := h.orderly
  cases r with
  | ok d => exact ⟨d, rfl⟩
  | error fault =>
    rw [horderly.unverified fault rfl, List.append_nil] at hmem
    have hno := horderly.isVerification_main _ hmem
    cases hno

/-- From its compiler to its explorer, a launch hands on what it was given. -/
theorem Executes.custody (hname : IsContractName c.contractName)
    (h : l.Executes signer c held w acts r w') (hmem : .submit e s ∈ acts) :
    ∃ hand later d, r = .ok d ∧ acts = hand.course l e s ++ later ∧
      l.Custody signer c w hand e s later d := by
  obtain ⟨d, rfl⟩ := h.exists_ok_of_submit hmem
  -- A launch that does not fail takes one way alone up to its submission.
  cases h with
  | @finished a m contract answer report _ _ _ _ _ _ _ _ hcompile hsubmit hconfirm hchain hverify =>
  cases hsubmit with
  | @mined sender address txHash _ _ _ haddress hdeploy hmined =>
  cases hconfirm with
  | @confirmed receipt _ hconfirmed =>
  cases hverify with
  | skipped => simp at hmem
  | @verified endpoint _ _ _ hendpoint hverify =>
  cases hverify.submitted (by simpa using hmem) with
  | @mk encoded code accepted later _ _ hargs hflat haccepted hlater =>
  obtain ⟨hnetwork, hurl, hkey⟩ := Explorers.endpoint_of_bind hendpoint
  have hid := (Network.ofChainId?_eq_some_iff.mp hnetwork).2
  refine ⟨⟨c.source, a, sender, (ConstructorArgs.ofConfig c).values, txHash, address, receipt,
    answer, code, accepted⟩, later, _, rfl, rfl, ?_⟩
  exact
    { source := rfl
      arguments := rfl
      answered := .mk hcompile haddress hdeploy hmined hconfirmed hchain hflat haccepted
      sourceCode := rfl
      constructorArguments := hargs
      contractAddress := rfl
      deployed := rfl
      contractName := contractNames_source hname
      chain := rfl
      network := hnetwork
      network_chainId := hid
      submitted_chainId := hid
      apiUrl := hurl
      apiKey := hkey
      awaits := hlater }

/-- What a launch writes. -/
def entries (l : Launcher σ) (signer : Signer σ) (d : Draft) (s : Session σ) : List Act :=
  (l.runDraft signer d s).2.journal.drop s.journal.length

/-- Whatever its services answer, what a launch of a draft submits is what it has created. -/
theorem custody_of_submit (l : Launcher σ) (signer : Signer σ) (d : Draft) (s : Session σ)
    {e : Endpoint} {submission : Submission}
    (h : .submit e submission ∈ l.entries signer d s) :
    ∃ c hand later deployment, d.validate = .ok c ∧
      (l.runDraft signer d s).1 = .ok deployment ∧
      (l.runDraft signer d s).2.journal =
        s.journal ++ (hand.course l e submission ++ later ++ [.event (.done deployment)]) ∧
      l.Custody signer c s.world hand e submission later deployment := by
  obtain ⟨acts, r, w, hdoes, hlaunches⟩ := l.exists_launches signer d s.inFlight s.world
  have hrun : l.runDraft signer d s = (r, ⟨w, s.inFlight, s.journal ++ acts⟩) := hdoes s.journal
  rw [entries, hrun, List.drop_left] at h
  cases hlaunches with
  | invalid => simp at h
  | @launched c acts r w hd hexecute =>
    have hmem : .submit e submission ∈ acts := by simpa using h
    have hname := (Draft.validate_eq_ok_iff.mp hd).isContractName
    obtain ⟨hand, later, deployment, rfl, rfl, hcustody⟩ := hexecute.custody hname hmem
    exact ⟨c, hand, later, deployment, hd, by rw [hrun], by rw [hrun]; rfl, hcustody⟩

/-- Where the explorer of a test chain is. -/
def testEndpoint : Endpoint := ⟨.sepolia, "https://api-sepolia.etherscan.io/api", ""⟩

theorem custody_managedDraft : ∃ submission, submission.sourceCode = "// flat" ∧
    .submit testEndpoint submission ∈
      (fixedLauncher (.ok "// flat") ⟨10, 5⟩).entries numberingSigner managedDraft (start 0) ∧
    ∃ c hand later deployment, managedDraft.validate = .ok c ∧
      (fixedLauncher (.ok "// flat") ⟨10, 5⟩).Custody numberingSigner c 0 hand testEndpoint
        submission later deployment := by
  have hsubmitted : (testEndpoint, "// flat") ∈ (submissions
      ((fixedLauncher (.ok "// flat") ⟨10, 5⟩).entries numberingSigner managedDraft (start 0))).map
        fun p => (p.1, p.2.sourceCode) := by
    decide +kernel
  obtain ⟨⟨e, submission⟩, hmem, heq⟩ := List.mem_map.mp hsubmitted
  obtain ⟨rfl, hcode⟩ := Prod.mk.inj heq
  have hsubmit := mem_submissions_iff.mp hmem
  obtain ⟨c, hand, later, deployment, hd, -, -, hcustody⟩ :=
    custody_of_submit _ numberingSigner managedDraft (start 0) hsubmit
  exact ⟨submission, hcode, hsubmit, c, hand, later, deployment, hd, hcustody⟩

end Launcher

end TokenLaunch
