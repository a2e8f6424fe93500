import TokenLaunch.Proofs.Launch

/-!
# The order of a launch

Whatever the services answer, a launch makes its calls in one order, ends with its first failure,
tells one of six words of events, and has nothing verified before its contract is confirmed.
-/

namespace TokenLaunch

/-! ## Kinds of entries -/

/-- The calls that a launch cannot do without. -/
inductive Stage where
  | compile
  | askAddress
  | deploy
  | awaitMined
  | awaitConfirmed
deriving DecidableEq, Repr

/-- The stages in their order. -/
def Stage.all : List Stage := [compile, askAddress, deploy, awaitMined, awaitConfirmed]

namespace Act

/-- The event that an entry is. -/
def event? : Act → Option Event
  | event e => some e
  | _ => none

/-- The call that an entry is, if its failure ends a launch. -/
def stage? : Act → Option Stage
  | compile _ => some .compile
  | askAddress => some .askAddress
  | deploy _ _ _ => some .deploy
  | awaitMined => some .awaitMined
  | awaitConfirmed _ => some .awaitConfirmed
  | _ => none

/-- An entry of a verification. -/
def isVerification : Act → Bool
  | flatten _ | submit _ _ | check _ _ | sleep _ => true
  | event (.verifying _) | event (.polling _ _) => true
  | _ => false

theorem stage?_of_isVerification {a : Act} (h : a.isVerification = true) : a.stage? = none := by
  cases a with
  | flatten | submit | check | sleep | event => rfl
  | _ => cases h

end Act

/-- The events of a journal. -/
def events (acts : List Act) : List Event := acts.filterMap Act.event?

theorem events_append (acts acts' : List Act) :
    events (acts ++ acts') = events acts ++ events acts' :=
  List.filterMap_append

/-- The stages of a journal. -/
def stages (acts : List Act) : List Stage := acts.filterMap Act.stage?

theorem stages_append (acts acts' : List Act) :
    stages (acts ++ acts') = stages acts ++ stages acts' :=
  List.filterMap_append

theorem stages_eq_nil {acts : List Act} (h : ∀ a ∈ acts, a.isVerification = true) :
    stages acts = [] :=
  List.filterMap_eq_nil_iff.mpr fun a ha => Act.stage?_of_isVerification (h a ha)

/-- Consecutive polls, from the first on. -/
def pollingEvents (maxAttempts polls : Nat) : List Event :=
  (List.range' 1 polls).map fun attempt => .polling attempt maxAttempts

/-- What a launch can tell that ends with a result. -/
inductive Word (maxAttempts : Nat) : List Event → Except LaunchError Deployment → Prop
  | invalid (e : ConfigError) : Word maxAttempts [.error e.message] (.error (.config e))
  | uncompiled (e : CompilationError) :
      Word maxAttempts [.preparing, .error e.message] (.error (.compilation e))
  | uncreated (e : DeploymentError) :
      Word maxAttempts [.preparing, .deploying, .error e.message] (.error (.deployment e))
  | unconfirmed (address : String) (e : DeploymentError) :
      Word maxAttempts [.preparing, .deploying, .confirming address, .error e.message]
        (.error (.deployment e))
  | skipped (d : Deployment) :
      Word maxAttempts [.preparing, .deploying, .confirming d.contractAddress, .done d] (.ok d)
  | verified (d : Deployment) {polls : Nat} (hpolls : polls ≤ maxAttempts) :
      Word maxAttempts
        (.preparing :: .deploying :: .confirming d.contractAddress ::
          .verifying d.contractAddress :: (pollingEvents maxAttempts polls ++ [.done d])) (.ok d)

theorem word_of_ok {maxAttempts : Nat} {es : List Event} (d : Deployment)
    (h : es = [] ∨ ∃ polls, polls ≤ maxAttempts ∧
      es = .verifying d.contractAddress :: pollingEvents maxAttempts polls) :
    Word maxAttempts
      ([.preparing, .deploying, .confirming d.contractAddress] ++ es ++ [.done d]) (.ok d) := by
  rcases h with rfl | ⟨polls, hpolls, rfl⟩
  · exact .skipped d
  · exact .verified d hpolls

namespace Verifier

open Verification

variable {σ : Type} {v : Verifier σ} {t : Target} {held : List String} {w w' : σ} {acts : List Act}

/-- The entries of the rounds of a launch. -/
theorem acts_eq_of_asks {guid : String} {o : Polling.Outcome (VerificationState × String)}
    (h : Polling.Asks v.policy (v.Checks t Launcher.told guid) w acts o w') :
    ∃ polls, polls ≤ v.policy.maxAttempts ∧
      acts = (List.range' 1 polls).flatMap fun attempt =>
        [.sleep v.policy.interval, .event (.polling attempt v.policy.maxAttempts),
          .check t.endpoint guid] := by
  refine h.acts_eq ?_
  intro attempt w acts a w' hcheck
  cases hcheck with
  | asked hanswer => rfl

/-- Entries of verifications alone, with the events of a run of polls. -/
structure Told (v : Verifier σ) (acts : List Act) : Prop where
  isVerification : ∀ a ∈ acts, a.isVerification = true
  polling : ∃ polls, polls ≤ v.policy.maxAttempts ∧
    events acts = pollingEvents v.policy.maxAttempts polls

theorem told_of_asks {guid : String} {o : Polling.Outcome (VerificationState × String)}
    (h : Polling.Asks v.policy (v.Checks t Launcher.told guid) w acts o w') : v.Told acts := by
  obtain ⟨polls, hpolls, rfl⟩ := acts_eq_of_asks h
  constructor
  · intro a ha
    obtain ⟨attempt, -, ha⟩ := List.mem_flatMap.mp ha
    simp only [List.mem_cons, List.not_mem_nil, or_false] at ha
    rcases ha with rfl | rfl | rfl <;> rfl
  · refine ⟨polls, hpolls, ?_⟩
    unfold events pollingEvents
    rw [List.filterMap_flatMap, List.map_eq_flatMap]
    rfl

/-- Entries that tell nothing may stand before the others. -/
theorem Told.append {before : List Act} (hbefore : ∀ a ∈ before, a.isVerification = true)
    (hevents : events before = []) (h : v.Told acts) : v.Told (before ++ acts) where
  isVerification := List.forall_mem_append.mpr ⟨hbefore, h.isVerification⟩
  polling := by
    rw [events_append, hevents]
    exact h.polling

theorem Submits.isVerification {r : Except VerificationError Acceptance}
    (h : v.Submits t w acts r w') : ∀ a ∈ acts, a.isVerification = true := by
  cases h with
  | unencoded => simp
  | unflattened | answered => simp [Act.isVerification]

theorem Submits.events_eq_nil {r : Except VerificationError Acceptance}
    (h : v.Submits t w acts r w') : events acts = [] := by
  cases h <;> rfl

theorem told_of_submits {r : Except VerificationError Acceptance} (h : v.Submits t w acts r w') :
    v.Told acts where
  isVerification := h.isVerification
  polling := ⟨0, Nat.zero_le _, h.events_eq_nil⟩

theorem told_of_verifies {r : Report} (h : v.Verifies t Launcher.told held w acts r w') :
    v.Told acts := by
  have hfollow {sent polls : List Act} {guid : String}
      {r : Except VerificationError Acceptance} {o : Polling.Outcome (VerificationState × String)}
      {w w₁ w₂ : σ} (hsubmit : v.Submits t w sent r w₁)
      (hpolls : Polling.Asks v.policy (v.Checks t Launcher.told guid) w₁ polls o w₂) :
      v.Told (sent ++ ([.sleep v.settleDelay] ++ polls)) := by
    refine Told.append hsubmit.isVerification hsubmit.events_eq_nil ?_
    exact (told_of_asks hpolls).append (by simp [Act.isVerification]) rfl
  cases h with
  | refused => exact ⟨by simp, 0, Nat.zero_le _, rfl⟩
  | admitted _ hattempt =>
    cases hattempt with
    | unsubmitted hsubmit => exact told_of_submits hsubmit
    | alreadyVerified hsubmit => exact told_of_submits hsubmit
    | ended hsubmit hpolls => exact hfollow hsubmit hpolls
    | timedOut hsubmit hpolls => exact hfollow hsubmit hpolls

end Verifier

namespace Creation

variable {σ : Type} {signer : Signer σ} {a : Artifact} {c : TokenConfig} {m : Mined} {w w' : σ}
  {acts : List Act}

/-- The entries of a creation that does not fail. -/
def calls (a : Artifact) (c : TokenConfig) : List Act :=
  [.askAddress, .deploy a.abi a.bytecode (ConstructorArgs.ofConfig c).values, .awaitMined]

theorem Submits.eq_calls (h : Submits signer a c w acts (.ok m) w') :
    acts = calls a c ∧ ∃ w₁ w₂, signer.mined w₁ = (.ok m.address, w₂) := by
  cases h with
  | mined haddress hdeploy hmined => exact ⟨rfl, _, _, hmined⟩

/-- A creation makes the first of the calls, and always the first one. -/
theorem Submits.isPrefix {r : Except DeploymentError Mined} (h : Submits signer a c w acts r w') :
    acts <+: calls a c ∧ .askAddress ∈ acts := by
  cases h with
  | noAddress => exact ⟨⟨_, rfl⟩, by simp⟩
  | unsent => exact ⟨⟨_, rfl⟩, by simp⟩
  | unmined => exact ⟨⟨[], rfl⟩, by simp⟩
  | mined => exact ⟨⟨[], rfl⟩, by simp⟩

theorem Confirms.eq_call {confirmations : Nat} {r : Except DeploymentError Confirmed}
    (h : Confirms signer confirmations m w acts r w') : acts = [.awaitConfirmed confirmations] := by
  cases h <;> rfl

theorem Confirms.address_eq {confirmations : Nat} {contract : Confirmed}
    (h : Confirms signer confirmations m w acts (.ok contract) w') :
    contract.address = m.address := by
  cases h
  rfl

end Creation

namespace Launcher

variable {σ : Type} {l : Launcher σ} {signer : Signer σ} {c : TokenConfig} {held : List String}
  {w w' : σ} {acts : List Act} {r : Except LaunchError Deployment}

/-- The order of a launch that ends with `r`: the entries of its verification follow those of its
stages, and there are none unless all stages have succeeded. -/
structure Orderly (l : Launcher σ) (signer : Signer σ) (main verification : List Act)
    (r : Except LaunchError Deployment) : Prop where
  stages_isPrefix : stages (main ++ verification) <+: Stage.all
  stages_eq : ∀ d, r = .ok d → stages main = Stage.all
  isVerification_main : ∀ a ∈ main, a.isVerification = false
  isVerification : ∀ a ∈ verification, a.isVerification = true
  unverified : ∀ e, r = .error e → verification = []
  word : Word l.verifier.policy.maxAttempts (events (main ++ verification ++ [.event (ending r)])) r
  address : ∀ address, .event (.confirming address) ∈ main →
    ∃ w₁ w₂, signer.mined w₁ = (.ok address, w₂)
  touchedChain : ∀ e, r = .error e → (e.touchedChain = true ↔ .askAddress ∈ main)

/-- A launch that fails has no verification. -/
theorem orderly_of_error {main : List Act} {e : LaunchError}
    (hstages : stages main <+: Stage.all) (hmain : ∀ a ∈ main, a.isVerification = false)
    (hword : Word l.verifier.policy.maxAttempts (events main ++ [.error e.message]) (.error e))
    (haddress : ∀ address, .event (.confirming address) ∈ main →
      ∃ w₁ w₂, signer.mined w₁ = (.ok address, w₂))
    (hchain : e.touchedChain = true ↔ .askAddress ∈ main) :
    l.Orderly signer main [] (.error e) where
  stages_isPrefix := by
    rw [List.append_nil]
    exact hstages
  stages_eq := by simp
  isVerification_main := hmain
  isVerification := by simp
  unverified := fun _ _ => rfl
  word := by
    rw [List.append_nil, events_append]
    exact hword
  address := haddress
  touchedChain := by
    rintro e' ⟨⟩
    exact hchain

/-- The entries of a launch before its creation is sent. -/
def opening (c : TokenConfig) : List Act :=
  [.event .preparing, .compile c.source, .event .deploying]

/-- The entries of a launch until its contract is confirmed. -/
def untilConfirmed (l : Launcher σ) (c : TokenConfig) (a : Artifact) (address : String) :
    List Act :=
  opening c ++ (Creation.calls a c ++
    [.event (.confirming address), .awaitConfirmed l.confirmations])

theorem isVerification_calls {a : Artifact} :
    ∀ b ∈ Creation.calls a c, b.isVerification = false := by
  simp [Creation.calls, Act.isVerification]

theorem isVerification_untilConfirmed (l : Launcher σ) (c : TokenConfig) (a : Artifact)
    (address : String) : ∀ b ∈ l.untilConfirmed c a address, b.isVerification = false := by
  simp [untilConfirmed, opening, Creation.calls, Act.isVerification]

theorem mined_of_mem_untilConfirmed {a : Artifact} {address mined : String}
    (hmined : ∃ w₁ w₂, signer.mined w₁ = (.ok mined, w₂))
    (h : .event (.confirming address) ∈ l.untilConfirmed c a mined) :
    ∃ w₁ w₂, signer.mined w₁ = (.ok address, w₂) := by
  have heq : address = mined := by
    simpa [untilConfirmed, opening, Creation.calls] using h
  rw [heq]
  exact hmined

/-- A launch tells nothing of a verification, or tells of it and then of its polls. -/
theorem Verifies.told {source : String} {a : Artifact} {contract : Creation.Confirmed}
    {network : Option Network} {report : Verification.Report}
    (h : l.Verifies c source a contract network held w acts report w') :
    (∀ b ∈ acts, b.isVerification = true) ∧
      (events acts = [] ∨ ∃ polls, polls ≤ l.verifier.policy.maxAttempts ∧
        events acts = .verifying contract.address ::
          pollingEvents l.verifier.policy.maxAttempts polls) := by
  cases h with
  | skipped => exact ⟨by simp, .inl rfl⟩
  | verified hendpoint hverify =>
    obtain ⟨hacts, polls, hpolls, hevents⟩ := Verifier.told_of_verifies hverify
    refine ⟨List.forall_mem_cons.mpr ⟨rfl, hacts⟩, .inr ⟨polls, hpolls, ?_⟩⟩
    rw [← hevents]
    rfl

theorem events_untilConfirmed (l : Launcher σ) (c : TokenConfig) (a : Artifact) (address : String) :
    events (l.untilConfirmed c a address) = [.preparing, .deploying, .confirming address] := rfl

theorem Executes.orderly (h : l.Executes signer c held w acts r w') :
    ∃ main verification, acts = main ++ verification ∧ l.Orderly signer main verification r := by
  cases h with
  | @uncompiled e _ hcompile =>
    refine ⟨[.event .preparing, .compile c.source], [], rfl, ?_⟩
    refine orderly_of_error ⟨_, rfl⟩ ?_ (.uncompiled e) ?_ ?_
    · simp [Act.isVerification]
    · simp
    · simp [LaunchError.touchedChain]
  | @uncreated a e _ _ sent hcompile hsubmit =>
    obtain ⟨hsent, hasked⟩ := hsubmit.isPrefix
    refine ⟨opening c ++ sent, [], (List.append_nil _).symm, ?_⟩
    refine orderly_of_error ?_ ?_ ?_ ?_ ?_
    · have hmade : opening c ++ sent <+: l.untilConfirmed c a "" :=
        (List.prefix_append_right_inj _).mpr (hsent.trans (List.prefix_append _ _))
      exact hmade.filterMap Act.stage?
    · refine List.forall_mem_append.mpr ⟨by simp [opening, Act.isVerification], ?_⟩
      intro b hb
      exact isVerification_calls b (hsent.subset hb)
    · have hnone : events sent = [] := List.prefix_nil.mp (hsent.filterMap Act.event?)
      rw [events_append, hnone]
      exact .uncreated e
    · intro address haddress
      have hmem : .event (.confirming address) ∈ Creation.calls a c :=
        hsent.subset (by simpa [opening] using haddress)
      simp [Creation.calls] at hmem
    · simp [LaunchError.touchedChain, hasked]
  | @unconfirmed a m e _ _ _ _ _ hcompile hsubmit hconfirm =>
    obtain ⟨rfl, hmined⟩ := hsubmit.eq_calls
    obtain rfl := hconfirm.eq_call
    refine ⟨l.untilConfirmed c a m.address, [], (List.append_nil _).symm, ?_⟩
    refine orderly_of_error ⟨[], rfl⟩ (l.isVerification_untilConfirmed c a m.address)
      (.unconfirmed m.address e) (fun _ => mined_of_mem_untilConfirmed hmined) ?_
    simp [LaunchError.touchedChain, untilConfirmed, Creation.calls]
  | @finished a m contract answer report _ _ _ _ _ _ _ verified hcompile hsubmit hconfirm hchain
      hverify =>
    obtain ⟨rfl, hmined⟩ := hsubmit.eq_calls
    have haddress := hconfirm.address_eq
    obtain rfl := hconfirm.eq_call
    obtain ⟨hverified, hevents⟩ := hverify.told
    refine ⟨l.untilConfirmed c a m.address, verified, rfl, ?_⟩
    constructor
    case stages_isPrefix =>
      rw [stages_append, stages_eq_nil hverified]
      exact ⟨[], rfl⟩
    case stages_eq => exact fun _ _ => rfl
    case isVerification_main => exact l.isVerification_untilConfirmed c a m.address
    case isVerification => exact hverified
    case unverified => simp
    case word =>
      rw [events_append, events_append, events_untilConfirmed, ← haddress]
      exact word_of_ok ⟨contract.address, _, _, _, _⟩ hevents
    case address => exact fun _ => mined_of_mem_untilConfirmed hmined
    case touchedChain => simp

theorem Launches.orderly {d : Draft} (h : l.Launches signer d held w acts r w') :
    ∃ main verification, acts = main ++ verification ++ [.event (ending r)] ∧
      l.Orderly signer main verification r := by
  cases h with
  | @invalid e hd =>
    refine ⟨[], [], rfl, ?_⟩
    refine orderly_of_error ⟨_, rfl⟩ (by simp) (.invalid e) (by simp) ?_
    simp [LaunchError.touchedChain]
  | launched hd hexecute =>
    obtain ⟨main, verification, rfl, horderly⟩ := hexecute.orderly
    exact ⟨main, verification, rfl, horderly⟩

/-- Whatever the services answer, a launch goes one of its ways, makes its calls in one order and
tells it in one of six words, which end with its result. -/
theorem runDraft_orderly (l : Launcher σ) (signer : Signer σ) (d : Draft) (s : Session σ) :
    ∃ main verification r s', l.runDraft signer d s = (r, s') ∧
      s'.journal = s.journal ++ (main ++ verification ++ [.event (ending r)]) ∧
      l.Launches signer d s.inFlight s.world (main ++ verification ++ [.event (ending r)]) r
        s'.world ∧
      l.Orderly signer main verification r := by
  obtain ⟨acts, r, w, hdoes, hlaunches⟩ := l.exists_launches signer d s.inFlight s.world
  obtain ⟨main, verification, rfl, horderly⟩ := hlaunches.orderly
  exact ⟨main, verification, r, _, hdoes s.journal, rfl, hlaunches, horderly⟩

end Launcher

end TokenLaunch
