import TokenLaunch.Proofs.Explorers
import TokenLaunch.Proofs.Failure
import TokenLaunch.Proofs.Outcome

/-!
# Launches one after the other

What a launcher is left with after a series of launches, whatever they are of, whoever signs them
and wherever they fail.  A launch that finds no contract claimed leaves none claimed, and so no
launch of a series keeps a later one from verifying its contract.
-/

namespace TokenLaunch

/-! ## Ends of verifications -/

/-- Polling ends with a value only where an answer has told it. -/
theorem Verifier.tells_of_asks {σ : Type} {v : Verifier σ} {t : Verification.Target}
    {note : Verification.Phase → List Act} {guid text : String} {state : VerificationState}
    {attempts : Nat} {w w' : σ} {acts : List Act}
    (h : Polling.Asks v.policy (v.Checks t note guid) w acts (.done (state, text) attempts) w') :
    Tells text state := by
  cases h with
  | done hrounds =>
    obtain ⟨n, hfirst, -, -⟩ := hrounds.first fun _ _ _ _ _ hcheck => hcheck.eq
    cases hfirst with
    | found _ _ hvalue => exact (reading_eq_some_iff.mp hvalue).2

/-- The states in which a verification can end that is admitted. -/
def VerificationState.verdicts : List VerificationState := [.verified, .failed, .timedOut]

theorem Tells.mem_verdicts {text : String} {state : VerificationState} (h : Tells text state) :
    state ∈ VerificationState.verdicts := by
  cases h <;> decide

theorem Verifier.Attempts.state_mem_verdicts {σ : Type} {v : Verifier σ} {t : Verification.Target}
    {note : Verification.Phase → List Act} {w w' : σ} {acts : List Act} {r : Verification.Report}
    (h : v.Attempts t note w acts r w') : r.state ∈ VerificationState.verdicts := by
  cases h with
  | unsubmitted =>
    change VerificationState.failed ∈ VerificationState.verdicts
    decide
  | alreadyVerified =>
    change VerificationState.verified ∈ VerificationState.verdicts
    decide
  | ended _ hpolls => exact (tells_of_asks hpolls).mem_verdicts
  | timedOut =>
    change VerificationState.timedOut ∈ VerificationState.verdicts
    decide

/-! ## What a launch leaves behind -/

/-- A record of a launch that is over: the network is that of the chain, and the verification is
skipped where the chain has none and has come to a verdict where it has one. -/
structure Deployment.Final (d : Deployment) : Prop where
  network : ∀ n, d.network = some n ↔ n.isTestnet = true ∧ n.chainId = d.chainId
  skipped : d.state = .skipped ↔ d.network = none
  verdict : d.network ≠ none → d.state ∈ VerificationState.verdicts

namespace Launcher

open Session

variable {σ : Type} {l : Launcher σ} {signer : Signer σ} {c : TokenConfig} {w w' : σ}
  {acts : List Act}

/-- Where no contract is claimed, a chain with a network has its verification admitted. -/
theorem Verifies.final {source : String} {a : Artifact} {contract : Creation.Confirmed}
    {network : Option Network} {report : Verification.Report} (ht : l.explorers.Customized)
    (h : l.Verifies c source a contract network [] w acts report w') :
    (report.state = .skipped ↔ network = none) ∧
      (network ≠ none → report.state ∈ VerificationState.verdicts) := by
  cases h with
  | skipped hendpoint =>
    have hnone := (ht.bind_endpoint?_eq_none_iff l.keys network).mp hendpoint
    exact ⟨iff_of_true rfl hnone, fun hsome => absurd hnone hsome⟩
  | verified hendpoint hverify =>
    have hsome : network ≠ none := by
      rintro rfl
      cases hendpoint
    cases hverify with
    | refused hheld => cases hheld
    | admitted _ hattempt =>
      have hverdict := hattempt.state_mem_verdicts
      refine ⟨iff_of_false ?_ hsome, fun _ => hverdict⟩
      intro hskipped
      rw [hskipped] at hverdict
      exact absurd hverdict (by decide)

theorem Executes.final {d : Deployment} (ht : l.explorers.Customized)
    (h : l.Executes signer c [] w acts (.ok d) w') : d.Final := by
  cases h with
  | finished _ _ _ _ hverify =>
    obtain ⟨hskipped, hverdict⟩ := hverify.final ht
    exact ⟨fun _ => Network.ofChainId?_eq_some_iff, hskipped, hverdict⟩

/-! ## Series -/

/-- What is to be launched, and who signs it. -/
inductive Commission (σ : Type) where
  | draft (signer : Signer σ) (d : Draft)
  | config (signer : Signer σ) (c : TokenConfig)

/-- The launch of what is to be launched. -/
def perform (l : Launcher σ) : Commission σ → Run σ (Except LaunchError Deployment)
  | .draft signer d => l.runDraft signer d
  | .config signer c => l.run signer c

/-- The ways of a launch of either kind. -/
inductive Performs (l : Launcher σ) (held : List String) (w : σ) :
    Commission σ → List Act → Except LaunchError Deployment → σ → Prop
  | draft {signer : Signer σ} {d : Draft} {acts : List Act} {r : Except LaunchError Deployment}
      {w' : σ} (h : l.Launches signer d held w acts r w') :
      Performs l held w (.draft signer d) acts r w'
  | config {signer : Signer σ} {c : TokenConfig} {acts : List Act}
      {r : Except LaunchError Deployment} {w' : σ} (h : l.Executes signer c held w acts r w') :
      Performs l held w (.config signer c) (acts ++ [.event (ending r)]) r w'

theorem exists_performs (l : Launcher σ) (held : List String) (w : σ) (x : Commission σ) :
    ∃ acts r w', Does (l.perform x) held w acts r w' ∧ l.Performs held w x acts r w' := by
  cases x with
  | draft signer d =>
    obtain ⟨acts, r, w', hdoes, hlaunches⟩ := l.exists_launches signer d held w
    exact ⟨acts, r, w', hdoes, .draft hlaunches⟩
  | config signer c =>
    obtain ⟨acts, r, w', hdoes, hexecutes⟩ := l.exists_executes signer c held w
    exact ⟨_, r, w', does_run hdoes, .config hexecutes⟩

theorem Performs.final {x : Commission σ} {d : Deployment} (ht : l.explorers.Customized)
    (h : l.Performs [] w x acts (.ok d) w') : d.Final := by
  cases h with
  | draft hlaunches =>
    cases hlaunches with
    | launched _ hexecutes => exact hexecutes.final ht
  | config hexecutes => exact hexecutes.final ht

/-- A launch of a series, with the sessions before and after it. -/
structure Performance (σ : Type) where
  commission : Commission σ
  before : Session σ
  result : Except LaunchError Deployment
  after : Session σ

/-- Launches one after the other: each begins where the one before it has ended. -/
def series (l : Launcher σ) : List (Commission σ) → Session σ → List (Performance σ)
  | [], _ => []
  | x :: xs, s =>
    let p := l.perform x s
    ⟨x, s, p.1, p.2⟩ :: series l xs p.2

theorem series_cons (l : Launcher σ) (x : Commission σ) (xs : List (Commission σ))
    (s : Session σ) : l.series (x :: xs) s =
      ⟨x, s, (l.perform x s).1, (l.perform x s).2⟩ :: l.series xs (l.perform x s).2 := rfl

/-- A launch of a series that goes as if it were the only one. -/
structure Settles (l : Launcher σ) (p : Performance σ) : Prop where
  /-- No contract is refused to it, whatever its address. -/
  admits : ∀ address, (claim address p.before).1 = true
  /-- It takes one of the ways of a launch with no contract claimed. -/
  course : ∃ acts, p.after.journal = p.before.journal ++ acts ∧
    l.Performs [] p.before.world p.commission acts p.result p.after.world
  released : p.after.inFlight = []
  final : ∀ d, p.result = .ok d → d.Final

/-- One launch settles where no contract is claimed. -/
theorem settles_perform (ht : l.explorers.Customized) (x : Commission σ) {s : Session σ}
    (hs : s.inFlight = []) : l.Settles ⟨x, s, (l.perform x s).1, (l.perform x s).2⟩ := by
  obtain ⟨acts, r, w', hdoes, hperforms⟩ := l.exists_performs [] s.world x
  have hrun : l.perform x s = (r, ⟨w', [], s.journal ++ acts⟩) := by
    rw [← hdoes s.journal, ← hs]
  rw [hrun]
  constructor
  case admits =>
    intro address
    have hfree : key address ∉ s.inFlight := by
      rw [hs]
      exact List.not_mem_nil
    rw [claim_apply_of_not_mem hfree]
  case course => exact ⟨acts, rfl, hperforms⟩
  case released => rfl
  case final =>
    intro d hd
    obtain rfl : r = .ok d := hd
    exact hperforms.final ht

/-- Every launch of a series settles, since the one before it has left no contract claimed. -/
theorem settles_of_mem_series (ht : l.explorers.Customized) (xs : List (Commission σ))
    {s : Session σ} (hs : s.inFlight = []) : ∀ p ∈ l.series xs s, l.Settles p := by
  induction xs generalizing s with
  | nil =>
    intro p hp
    cases hp
  | cons x xs ih =>
    have hsettles := settles_perform ht x hs
    intro p hp
    rw [series_cons, List.mem_cons] at hp
    rcases hp with rfl | hp
    · exact hsettles
    · exact ih hsettles.released p hp

theorem map_commission_series (l : Launcher σ) (xs : List (Commission σ)) (s : Session σ) :
    (l.series xs s).map Performance.commission = xs := by
  induction xs generalizing s with
  | nil => rfl
  | cons x xs ih => rw [series_cons, List.map_cons, ih]

/-- However many launches there were and however they ended, the next one goes as the first. -/
theorem series_settles (l : Launcher σ) (ht : l.explorers.Customized) (xs : List (Commission σ))
    (w : σ) : (l.series xs (start w)).map Performance.commission = xs ∧
      ∀ p ∈ l.series xs (start w), l.Settles p :=
  ⟨l.map_commission_series xs (start w), settles_of_mem_series ht xs rfl⟩

/-- A launch that fails, and two that create a contract at one address. -/
def repeatedCommissions : List (Commission Nat) :=
  [.draft numberingSigner Draft.default, .draft numberingSigner managedDraft,
    .draft numberingSigner managedDraft]

theorem series_settles_repeatedCommissions :
    (fixedLauncher (.ok "") ⟨10, 5⟩).explorers.Customized ∧
      ((fixedLauncher (.ok "") ⟨10, 5⟩).series repeatedCommissions (start 0)).map
          (fun p => p.result.toOption.map fun d => (d.contractAddress, d.state)) =
        [none, some (minedAddress, .verified), some (minedAddress, .verified)] ∧
      ∀ p ∈ (fixedLauncher (.ok "") ⟨10, 5⟩).series repeatedCommissions (start 0),
        (fixedLauncher (.ok "") ⟨10, 5⟩).Settles p := by
  refine ⟨.builtIn, by decide +kernel, ?_⟩
  exact (series_settles _ .builtIn repeatedCommissions 0).2

end Launcher

end TokenLaunch
