import TokenLaunch.Verification
import TokenLaunch.Proofs.Polling

/-!
# Courses of verifications

The ways a verification can take: one constructor for each place where it ends, with the answers of
the services that lead there and the entries it leaves.
-/

namespace TokenLaunch.Verifier

open Verification Session Polling

variable {σ : Type}

/-- What follows a phase writes `note` of the phase and does nothing else. -/
def Notes (onPhase : Phase → Run σ Unit) (note : Phase → List Act) : Prop :=
  ∀ p held w, Does (onPhase p) held w (note p) () w

/-- The ways of a submission. -/
inductive Submits (v : Verifier σ) (t : Target) (w : σ) :
    List Act → Except VerificationError Acceptance → σ → Prop
  | unencoded {fault : Abi.Interface.ArgumentFault}
      (hargs : t.abi.encodeArguments t.arguments = .error fault) :
      Submits v t w [] (.error (.encoding fault.message)) w
  | unflattened {encoded : String} {e : CompilationError} {w₁ : σ}
      (hargs : t.abi.encodeArguments t.arguments = .ok encoded)
      (hflat : v.compiler.flatten t.source w = (.error e, w₁)) :
      Submits v t w [.flatten t.source] (.error (.flatten e)) w₁
  | answered {encoded code : String} {r : Except VerificationError Acceptance} {w₁ w₂ : σ}
      (hargs : t.abi.encodeArguments t.arguments = .ok encoded)
      (hflat : v.compiler.flatten t.source w = (.ok code, w₁))
      (hanswer : v.explorer.submit t.endpoint (submission t code encoded) w₁ = (r, w₂)) :
      Submits v t w [.flatten t.source, .submit t.endpoint (submission t code encoded)] r w₂

theorem exists_submits (v : Verifier σ) (t : Target) (held : List String) (w : σ) :
    ∃ acts r w', Does (v.submit t) held w acts r w' ∧ v.Submits t w acts r w' := by
  unfold submit
  cases hargs : t.abi.encodeArguments t.arguments with
  | error fault => exact ⟨_, _, w, does_pure _, .unencoded hargs⟩
  | ok encoded =>
    rcases hflat : v.compiler.flatten t.source w with ⟨e | code, w₁⟩
    · exact ⟨_, _, w₁, (does_call hflat).bind_pure rfl, .unflattened hargs hflat⟩
    · rcases hanswer : v.explorer.submit t.endpoint (submission t code encoded) w₁ with ⟨r, w₂⟩
      exact ⟨_, r, w₂, (does_call hflat).bind (does_call hanswer),
        .answered hargs hflat hanswer⟩

/-- What an answer to the question for a status amounts to. -/
def reading : Except VerificationError String → Option (VerificationState × String)
  | .error _ => none
  | .ok text => (classify? text).map fun state => (state, text)

theorem does_checkStatus {v : Verifier σ} {t : Target} {guid : String} {held : List String}
    {w w₁ : σ} {answer : Except VerificationError String}
    (h : v.explorer.status t.endpoint guid w = (answer, w₁)) :
    Does (v.checkStatus t guid) held w [.check t.endpoint guid] (reading answer) w₁ := by
  unfold checkStatus
  refine (does_call h).bind_pure ?_
  cases answer <;> rfl

/-- A check tells its phase and asks once. -/
inductive Checks (v : Verifier σ) (t : Target) (note : Phase → List Act) (guid : String)
    (attempt : Nat) (w : σ) : List Act → Option (VerificationState × String) → σ → Prop
  | asked {answer : Except VerificationError String} {w₁ : σ}
      (hanswer : v.explorer.status t.endpoint guid w = (answer, w₁)) :
      Checks v t note guid attempt w
        (note (.polling attempt v.policy.maxAttempts) ++ [.check t.endpoint guid])
        (reading answer) w₁

theorem exists_checks {onPhase : Phase → Run σ Unit} {note : Phase → List Act}
    (hnote : Notes onPhase note) (v : Verifier σ) (t : Target) (guid : String)
    (held : List String) (attempt : Nat) (w : σ) :
    ∃ acts a w', Does (do onPhase (.polling attempt v.policy.maxAttempts); v.checkStatus t guid)
      held w acts a w' ∧ v.Checks t note guid attempt w acts a w' := by
  rcases hanswer : v.explorer.status t.endpoint guid w with ⟨answer, w₁⟩
  exact ⟨_, _, w₁, (hnote _ _ _).bind (does_checkStatus hanswer), .asked hanswer⟩

/-- The ways of a verification from its first phase on. -/
inductive Attempts (v : Verifier σ) (t : Target) (note : Phase → List Act) (w : σ) :
    List Act → Report → σ → Prop
  | unsubmitted {acts : List Act} {e : VerificationError} {w₁ : σ}
      (hsubmit : v.Submits t w acts (.error e) w₁) :
      Attempts v t note w (note .submitting ++ acts) (.early .failed (some e.message)) w₁
  | alreadyVerified {acts : List Act} {w₁ : σ}
      (hsubmit : v.Submits t w acts (.ok .alreadyVerified) w₁) :
      Attempts v t note w (note .submitting ++ acts) (.early .verified (some "Already Verified")) w₁
  | ended {acts polls : List Act} {guid text : String} {state : VerificationState} {attempts : Nat}
      {w₁ w₂ : σ} (hsubmit : v.Submits t w acts (.ok (.queued guid)) w₁)
      (hpolls : Asks v.policy (v.Checks t note guid) w₁ polls (.done (state, text) attempts) w₂) :
      Attempts v t note w
        (note .submitting ++ (acts ++ (note (.submitted guid) ++ .sleep v.settleDelay :: polls)))
        ⟨state, some guid, attempts, some text⟩ w₂
  | timedOut {acts polls : List Act} {guid : String} {attempts : Nat} {w₁ w₂ : σ}
      (hsubmit : v.Submits t w acts (.ok (.queued guid)) w₁)
      (hpolls : Asks v.policy (v.Checks t note guid) w₁ polls (.exhausted attempts) w₂) :
      Attempts v t note w
        (note .submitting ++ (acts ++ (note (.submitted guid) ++ .sleep v.settleDelay :: polls)))
        ⟨.timedOut, some guid, attempts, none⟩ w₂

theorem exists_attempts {onPhase : Phase → Run σ Unit} {note : Phase → List Act}
    (hnote : Notes onPhase note) (v : Verifier σ) (t : Target) (held : List String) (w : σ) :
    ∃ acts r w', Does (v.attempt t onPhase) held w acts r w' ∧ v.Attempts t note w acts r w' := by
  obtain ⟨acts, answer, w₁, hsubmit, hway⟩ := v.exists_submits t held w
  have hstart := hnote .submitting held w
  unfold attempt
  match answer with
  | .error e => exact ⟨_, _, w₁, hstart.bind (hsubmit.bind_pure rfl), .unsubmitted hway⟩
  | .ok .alreadyVerified =>
    exact ⟨_, _, w₁, hstart.bind (hsubmit.bind_pure rfl), .alreadyVerified hway⟩
  | .ok (.queued guid) =>
    obtain ⟨polls, outcome, w₂, hpolls, hasks⟩ :=
      exists_asks v.policy (v.exists_checks hnote t guid held) w₁
    have hwait : Does (sleep v.settleDelay : Run σ Unit) held w₁ [.sleep v.settleDelay] () w₁ :=
      does_act _
    cases outcome with
    | done value attempts =>
      exact ⟨_, _, w₂, hstart.bind (hsubmit.bind ((hnote _ _ _).bind (hwait.bind
        (hpolls.bind_pure rfl)))), .ended hway hasks⟩
    | exhausted attempts =>
      exact ⟨_, _, w₂, hstart.bind (hsubmit.bind ((hnote _ _ _).bind (hwait.bind
        (hpolls.bind_pure rfl)))), .timedOut hway hasks⟩

/-- The ways of a verification while the contracts of `held` are verified. -/
inductive Verifies (v : Verifier σ) (t : Target) (note : Phase → List Act) (held : List String)
    (w : σ) : List Act → Report → σ → Prop
  | refused (hheld : key t.contractAddress ∈ held) :
      Verifies v t note held w [] (.refused t.contractAddress) w
  | admitted {acts : List Act} {r : Report} {w₁ : σ} (hheld : key t.contractAddress ∉ held)
      (hattempt : v.Attempts t note w acts r w₁) : Verifies v t note held w acts r w₁

/-- What is claimed is not verified again. -/
theorem verify_apply_of_mem {v : Verifier σ} {t : Target} {onPhase : Phase → Run σ Unit}
    {s : Session σ} (h : key t.contractAddress ∈ s.inFlight) :
    v.verify t onPhase s = (.refused t.contractAddress, s) := by
  unfold verify
  change (if (claim t.contractAddress s).1 then _ else _ : Run σ Report)
    (claim t.contractAddress s).2 = _
  rw [claim_apply_of_mem h]
  rfl

/-- What is not claimed is verified under a claim of its own. -/
theorem verify_apply_of_notMem {v : Verifier σ} {t : Target} {onPhase : Phase → Run σ Unit}
    {s : Session σ} (h : key t.contractAddress ∉ s.inFlight) :
    v.verify t onPhase s =
      let p := v.attempt t onPhase { s with inFlight := key t.contractAddress :: s.inFlight }
      (p.1, { p.2 with inFlight := p.2.inFlight.erase (key t.contractAddress) }) := by
  unfold verify
  change (if (claim t.contractAddress s).1 then _ else _ : Run σ Report)
    (claim t.contractAddress s).2 = _
  rw [claim_apply_of_not_mem h]
  rfl

/-- The claim of a verification is given back at its end. -/
theorem does_verify {v : Verifier σ} {t : Target} {onPhase : Phase → Run σ Unit}
    {held : List String} {w w₁ : σ} {acts : List Act} {r : Report}
    (hheld : key t.contractAddress ∉ held)
    (h : Does (v.attempt t onPhase) (key t.contractAddress :: held) w acts r w₁) :
    Does (v.verify t onPhase) held w acts r w₁ := by
  intro journal
  rw [verify_apply_of_notMem hheld]
  simp only [h journal, List.erase_cons_head]

/-- A verification takes one of its ways, and leaves the claims as they were. -/
theorem exists_verifies {onPhase : Phase → Run σ Unit} {note : Phase → List Act}
    (hnote : Notes onPhase note) (v : Verifier σ) (t : Target) (held : List String) (w : σ) :
    ∃ acts r w', Does (v.verify t onPhase) held w acts r w' ∧
      v.Verifies t note held w acts r w' := by
  by_cases hheld : key t.contractAddress ∈ held
  · refine ⟨[], _, w, ?_, .refused hheld⟩
    intro journal
    rw [verify_apply_of_mem hheld, List.append_nil]
  · obtain ⟨acts, r, w₁, hattempt, hway⟩ :=
      v.exists_attempts hnote t (key t.contractAddress :: held) w
    exact ⟨acts, r, w₁, does_verify hheld hattempt, .admitted hheld hway⟩

end TokenLaunch.Verifier
