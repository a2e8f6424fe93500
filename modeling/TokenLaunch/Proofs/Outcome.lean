import Mathlib.Logic.Function.Iterate
import TokenLaunch.Proofs.Status
import TokenLaunch.Proofs.Verification

/-!
# What comes of a verification

The whole behaviour of a verification with no other inside it, for any policy of polling and any
answers of its services: what it tells, asks and waits for, in which order, and what it reports.
-/

namespace TokenLaunch

namespace Polling

open Session

variable {σ α : Type}

/-- The first of at most `bound` values in a row, numbered from `start` on, with the number of
those that were looked at. -/
inductive First (value : Nat → Option α) (bound start : Nat) : Nat → Option (α × Nat) → Prop
  | found {i : Nat} {a : α} (hi : i < bound) (hbefore : ∀ k < i, value k = none)
      (ha : value i = some a) : First value bound start (i + 1) (some (a, start + i))
  | missing (hnone : ∀ k < bound, value k = none) : First value bound start bound none

theorem First.succ {value : Nat → Option α} {bound start n : Nat} {r : Option (α × Nat)}
    (h₀ : value 0 = none) (h : First (fun k => value (k + 1)) bound (start + 1) n r) :
    First value (bound + 1) start (n + 1) r := by
  have hall {m : Nat} (hm : ∀ k < m, value (k + 1) = none) : ∀ k < m + 1, value k = none
    | 0, _ => h₀
    | k + 1, hk => hm k (Nat.lt_of_succ_lt_succ hk)
  cases h with
  | @found i a hi hbefore ha =>
    rw [Nat.add_right_comm start 1 i]
    exact .found (Nat.succ_lt_succ hi) (hall hbefore) ha
  | missing hnone => exact .missing (hall hnone)

/-- Where a check is a question to the services, polling asks in a row and ends with the first
value among the answers. -/
theorem Rounds.first {interval remaining attempt : Nat} {w w' : σ} {acts : List Act}
    {r : Option (α × Nat)} {C : Nat → σ → List Act → Option α → σ → Prop}
    {entries : Nat → List Act} {value : σ → Option α} {next : σ → σ}
    (hC : ∀ attempt w acts a w', C attempt w acts a w' →
      acts = entries attempt ∧ a = value w ∧ w' = next w)
    (h : Rounds interval C remaining attempt w acts r w') :
    ∃ n, First (fun k => value (next^[k] w)) remaining attempt n r ∧ w' = next^[n] w ∧
      acts = (List.range' attempt n).flatMap fun k => .sleep interval :: entries k := by
  induction h with
  | exhausted => exact ⟨0, .missing (by simp), rfl, rfl⟩
  | @ready _ attempt _ _ _ a h =>
    obtain ⟨rfl, ha, rfl⟩ := hC _ _ _ _ _ h
    refine ⟨1, ?_, rfl, by simp⟩
    exact .found (Nat.succ_pos _) (by simp) ha.symm
  | pending h _ ih =>
    obtain ⟨rfl, hnone, rfl⟩ := hC _ _ _ _ _ h
    obtain ⟨n, hfirst, rfl, rfl⟩ := ih
    refine ⟨n + 1, .succ hnone.symm hfirst, rfl, ?_⟩
    rw [List.range'_succ, List.flatMap_cons, List.cons_append]

end Polling

namespace Verifier

open Verification Session Polling

variable {σ : Type}

/-- The services after a number of questions for the status of a submission. -/
def asked (v : Verifier σ) (t : Target) (guid : String) (w : σ) (n : Nat) : σ :=
  (fun w => (v.explorer.status t.endpoint guid w).2)^[n] w

/-- The answer to the question that follows on a number of others. -/
def answer (v : Verifier σ) (t : Target) (guid : String) (w : σ) (n : Nat) :
    Except VerificationError String :=
  (v.explorer.status t.endpoint guid (v.asked t guid w n)).1

/-- An answer that tells of no end: any error, and any text without such words. -/
def Silent (answer : Except VerificationError String) : Prop :=
  ∀ text, answer = .ok text → ∀ state, ¬ Tells text state

theorem reading_eq_some_iff {a : Except VerificationError String} {state : VerificationState}
    {text : String} : reading a = some (state, text) ↔ a = .ok text ∧ Tells text state := by
  cases a with
  | error e => simp [reading]
  | ok s =>
    rw [← classify?_eq_some_iff]
    simp only [reading, Option.map_eq_some_iff, Prod.mk.injEq, Except.ok.injEq]
    constructor
    · rintro ⟨state', h, rfl, rfl⟩
      exact ⟨rfl, h⟩
    · rintro ⟨rfl, h⟩
      exact ⟨state, h, rfl, rfl⟩

theorem reading_eq_none_iff {a : Except VerificationError String} :
    reading a = none ↔ Silent a := by
  constructor
  · intro h text ha state htells
    rw [reading_eq_some_iff.mpr ⟨ha, htells⟩] at h
    cases h
  · intro h
    rw [Option.eq_none_iff_forall_ne_some]
    rintro ⟨state, text⟩ hsome
    obtain ⟨ha, htells⟩ := reading_eq_some_iff.mp hsome
    exact h text ha state htells

/-- The end of a submission after `n` questions: the first answer that tells of an end, or none
among as many as the policy allows. -/
inductive Ends (v : Verifier σ) (t : Target) (guid : String) (w : σ) : Nat → Report → Prop
  | told {n : Nat} {text : String} {state : VerificationState} (hn : n < v.policy.maxAttempts)
      (hsilent : ∀ k < n, Silent (v.answer t guid w k)) (hanswer : v.answer t guid w n = .ok text)
      (htells : Tells text state) : Ends v t guid w (n + 1) ⟨state, some guid, n + 1, some text⟩
  | timedOut (hsilent : ∀ k < v.policy.maxAttempts, Silent (v.answer t guid w k)) :
      Ends v t guid w v.policy.maxAttempts
        ⟨.timedOut, some guid, v.policy.maxAttempts, none⟩

/-- A pause, a phase and a question for each number from one on. -/
def roundsActs (v : Verifier σ) (t : Target) (guid : String) (n : Nat) : List Act :=
  (List.range' 1 n).flatMap fun k =>
    [.sleep v.policy.interval, .phase (.polling k v.policy.maxAttempts), .check t.endpoint guid]

/-- What a verification leaves in the journal, reports and leaves behind. -/
inductive Behaves (v : Verifier σ) (t : Target) (w : σ) : List Act → Report → σ → Prop
  | unencoded {fault : Abi.Interface.ArgumentFault}
      (hargs : t.abi.encodeArguments t.arguments = .error fault) :
      Behaves v t w [.phase .submitting]
        ⟨.failed, none, 0, some ("Constructor encoding failed: " ++ fault.message)⟩ w
  | unflattened {encoded : String} {e : CompilationError} {w₁ : σ}
      (hargs : t.abi.encodeArguments t.arguments = .ok encoded)
      (hflat : v.compiler.flatten t.source w = (.error e, w₁)) :
      Behaves v t w [.phase .submitting, .flatten t.source]
        ⟨.failed, none, 0, some ("Flattening failed: " ++ e.message)⟩ w₁
  | rejected {encoded code : String} {e : VerificationError} {w₁ w₂ : σ}
      (hargs : t.abi.encodeArguments t.arguments = .ok encoded)
      (hflat : v.compiler.flatten t.source w = (.ok code, w₁))
      (hanswer : v.explorer.submit t.endpoint (submission t code encoded) w₁ = (.error e, w₂)) :
      Behaves v t w [.phase .submitting, .flatten t.source,
          .submit t.endpoint (submission t code encoded)]
        ⟨.failed, none, 0, some e.message⟩ w₂
  | alreadyVerified {encoded code : String} {w₁ w₂ : σ}
      (hargs : t.abi.encodeArguments t.arguments = .ok encoded)
      (hflat : v.compiler.flatten t.source w = (.ok code, w₁))
      (hanswer : v.explorer.submit t.endpoint (submission t code encoded) w₁ =
        (.ok .alreadyVerified, w₂)) :
      Behaves v t w [.phase .submitting, .flatten t.source,
          .submit t.endpoint (submission t code encoded)]
        ⟨.verified, none, 0, some "Already Verified"⟩ w₂
  | followed {encoded code guid : String} {n : Nat} {r : Report} {w₁ w₂ : σ}
      (hargs : t.abi.encodeArguments t.arguments = .ok encoded)
      (hflat : v.compiler.flatten t.source w = (.ok code, w₁))
      (hanswer : v.explorer.submit t.endpoint (submission t code encoded) w₁ =
        (.ok (.queued guid), w₂))
      (hends : v.Ends t guid w₂ n r) :
      Behaves v t w ([.phase .submitting, .flatten t.source,
          .submit t.endpoint (submission t code encoded), .phase (.submitted guid),
          .sleep v.settleDelay] ++ v.roundsActs t guid n)
        r (v.asked t guid w₂ n)

/-- What a verification reports of an end of polling. -/
def reported (guid : String) : Outcome (VerificationState × String) → Report
  | .done (state, text) polls => ⟨state, some guid, polls, some text⟩
  | .exhausted polls => ⟨.timedOut, some guid, polls, none⟩

theorem Checks.eq {v : Verifier σ} {t : Target} {note : Phase → List Act} {guid : String}
    {k : Nat} {w w' : σ} {acts : List Act} {a : Option (VerificationState × String)}
    (h : v.Checks t note guid k w acts a w') :
    acts = note (.polling k v.policy.maxAttempts) ++ [.check t.endpoint guid] ∧
      a = reading (v.explorer.status t.endpoint guid w).1 ∧
      w' = (v.explorer.status t.endpoint guid w).2 := by
  obtain ⟨hanswer⟩ := h
  rw [hanswer]
  exact ⟨rfl, rfl, rfl⟩

theorem ends_of_asks {v : Verifier σ} {t : Target} {guid : String} {w w' : σ} {acts : List Act}
    {o : Outcome (VerificationState × String)}
    (h : Asks v.policy (v.Checks t (fun p => [.phase p]) guid) w acts o w') :
    ∃ n, v.Ends t guid w n (reported guid o) ∧ w' = v.asked t guid w n ∧
      acts = v.roundsActs t guid n := by
  cases h with
  | @done a _ _ h =>
    obtain ⟨state, text⟩ := a
    obtain ⟨n, hfirst, rfl, rfl⟩ := h.first fun _ _ _ _ _ hcheck => hcheck.eq
    refine ⟨n, ?_, rfl, rfl⟩
    cases hfirst with
    | @found i _ hi hbefore ha =>
      obtain ⟨hanswer, htells⟩ := reading_eq_some_iff.mp ha
      rw [Nat.add_comm 1 i]
      exact .told hi (fun k hk => reading_eq_none_iff.mp (hbefore k hk)) hanswer htells
  | exhausted h =>
    obtain ⟨n, hfirst, rfl, rfl⟩ := h.first fun _ _ _ _ _ hcheck => hcheck.eq
    refine ⟨n, ?_, rfl, rfl⟩
    cases hfirst with
    | missing hnone => exact .timedOut fun k hk => reading_eq_none_iff.mp (hnone k hk)

theorem Attempts.behaves {v : Verifier σ} {t : Target} {w w' : σ} {acts : List Act} {r : Report}
    (h : v.Attempts t (fun p => [.phase p]) w acts r w') : v.Behaves t w acts r w' := by
  have hfollowed {acts polls : List Act} {guid : String} {w₁ w₂ : σ}
      {o : Outcome (VerificationState × String)}
      (hsubmit : v.Submits t w acts (.ok (.queued guid)) w₁)
      (hpolls : Asks v.policy (v.Checks t (fun p => [.phase p]) guid) w₁ polls o w₂) :
      v.Behaves t w (.phase .submitting :: (acts ++ .phase (.submitted guid) ::
        .sleep v.settleDelay :: polls)) (reported guid o) w₂ := by
    obtain ⟨n, hends, rfl, rfl⟩ := ends_of_asks hpolls
    cases hsubmit with
    | answered hargs hflat hanswer => exact .followed hargs hflat hanswer hends
  cases h with
  | unsubmitted hsubmit =>
    cases hsubmit with
    | unencoded hargs => exact .unencoded hargs
    | unflattened hargs hflat => exact .unflattened hargs hflat
    | answered hargs hflat hanswer => exact .rejected hargs hflat hanswer
  | alreadyVerified hsubmit =>
    cases hsubmit with
    | answered hargs hflat hanswer => exact .alreadyVerified hargs hflat hanswer
  | ended hsubmit hpolls => exact hfollowed hsubmit hpolls
  | timedOut hsubmit hpolls => exact hfollowed hsubmit hpolls

/-- Where nothing begins at a phase, the phase alone is written. -/
theorem notes_phase (v : Verifier σ) :
    Notes (fun p => do act (.phase p); Nest.runAt v p.index []) fun p => [.phase p] :=
  fun _ _ _ => (does_act _).bind_pure rfl

/-- A verification of a contract that has no other behaves as its services answer, and leaves the
claims as they were. -/
theorem run_behaves (v : Verifier σ) (t : Target) (s : Session σ)
    (h : key t.contractAddress ∉ s.inFlight) :
    ∃ acts r w', Nest.run v (.mk t []) s = (r, ⟨w', s.inFlight, s.journal ++ acts⟩) ∧
      v.Behaves t s.world acts r w' := by
  obtain ⟨acts, r, w', hdoes, hverifies⟩ := v.exists_verifies (notes_phase v) t s.inFlight s.world
  refine ⟨acts, r, w', ?_, ?_⟩
  · rw [Nest.run]
    exact hdoes s.journal
  · cases hverifies with
    | refused hheld => exact absurd hheld h
    | admitted _ hattempt => exact hattempt.behaves

/-- An explorer that numbers the requests it gets: it is at work, then out of reach, and then it
tells that the source was verified before, although the text has the word of a failure. -/
def slowVerifier : Verifier Nat where
  compiler :=
    { compile := fun _ n => (.ok ⟨⟨none, 0⟩, ""⟩, n)
      flatten := fun s n => (.ok ("// flattened\n" ++ s), n) }
  explorer :=
    { submit := fun _ _ n => (.ok (.queued "guid"), n)
      status := fun _ _ n =>
        (match n with
          | 0 => .ok "Pending in queue"
          | 1 => .error (.rejected "rate limit")
          | _ => .ok "Fail - ALREADY Verified", n + 1) }
  policy := ⟨10, 5⟩
  settleDelay := 30

/-- A contract without a constructor. -/
def plainTarget (address : String) : Target where
  contractAddress := address
  contractName := "T"
  source := "contract T \x7b\x7d"
  abi := ⟨none, 0⟩
  arguments := []
  endpoint := ⟨.sepolia, "https://x.test/api", ""⟩

theorem run_behaves_slowVerifier : key "0xAA" ∉ (start 0).inFlight ∧
    (Nest.run slowVerifier (.mk (plainTarget "0xAA") []) (start 0)).1 =
      ⟨.verified, some "guid", 3, some "Fail - ALREADY Verified"⟩ ∧
    ∃ acts r w', Nest.run slowVerifier (.mk (plainTarget "0xAA") []) (start 0) =
        (r, ⟨w', (start 0).inFlight, (start 0).journal ++ acts⟩) ∧
      slowVerifier.Behaves (plainTarget "0xAA") (start 0).world acts r w' := by
  have hfree : key "0xAA" ∉ (start 0).inFlight := List.not_mem_nil
  exact ⟨hfree, by decide +kernel, slowVerifier.run_behaves (plainTarget "0xAA") (start 0) hfree⟩

end Verifier

end TokenLaunch
