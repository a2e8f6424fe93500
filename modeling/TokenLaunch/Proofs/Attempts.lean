import TokenLaunch.Polling
import TokenLaunch.Power

/-!
# Attempts of polling

Polling goes through rounds of one pause and one check, numbered from one on, until a check is ready
or the policy allows no more: in any world, for any pauses and any checks, and with no round beyond
the one that settles it.
-/

namespace TokenLaunch.Polling

variable {σ α : Type}

/-- Where results numbered from one on come to an end, when no more than `bound` of them are looked
at: the number of those that are, and the outcome. -/
inductive Stops (results : Nat → Option α) (bound : Nat) : Nat → Outcome α → Prop
  | ready {n : Nat} {a : α} (hpos : 1 ≤ n) (hn : n ≤ bound)
      (hbefore : ∀ k, 1 ≤ k → k < n → results k = none) (ha : results n = some a) :
      Stops results bound n (.done a n)
  | pending (hnone : ∀ k, 1 ≤ k → k ≤ bound → results k = none) :
      Stops results bound bound (.exhausted bound)

/-- Results come to one end only. -/
theorem Stops.unique {results : Nat → Option α} {bound n n' : Nat} {o o' : Outcome α}
    (h : Stops results bound n o) (h' : Stops results bound n' o') : n = n' ∧ o = o' := by
  have hearlier {n n' : Nat} {a : α} (hpos : 1 ≤ n) (ha : results n = some a)
      (hbefore : ∀ k, 1 ≤ k → k < n' → results k = none) : n' ≤ n := by
    refine Nat.le_of_not_lt fun hlt => ?_
    cases ha.symm.trans (hbefore n hpos hlt)
  cases h with
  | @ready _ a hpos hn hbefore ha =>
    cases h' with
    | @ready _ a' hpos' hn' hbefore' ha' =>
      obtain rfl := Nat.le_antisymm (hearlier hpos' ha' hbefore) (hearlier hpos ha hbefore')
      obtain rfl := Option.some.inj (ha.symm.trans ha')
      exact ⟨rfl, rfl⟩
    | pending hnone => cases ha.symm.trans (hnone _ hpos hn)
  | pending hnone =>
    cases h' with
    | ready hpos' hn' _ ha' => cases ha'.symm.trans (hnone _ hpos' hn')
    | pending => exact ⟨rfl, rfl⟩

/-! ## Rounds in a world -/

section

variable (policy : Policy) (sleep : Nat → StateM σ Unit) (check : Nat → StateM σ (Option α))

/-- One round: a pause, and the check with its number. -/
def round (k : Nat) : StateM σ (Option α) := do
  sleep policy.interval
  check k

/-- The world after the rounds with the numbers from one to `n`. -/
def after (w : σ) : Nat → σ
  | 0 => w
  | n + 1 => (round policy sleep check (n + 1) (after w n)).2

/-- What the check with a number gives, after the rounds before it. -/
def result (w : σ) (k : Nat) : Option α :=
  (round policy sleep check k (after policy sleep check w (k - 1))).1

theorem bind_apply {β γ : Type} {x : StateM σ β} {f : β → StateM σ γ} {w w' : σ} {b : β}
    (h : x w = (b, w')) : (x >>= f) w = f b w' := by
  have hbind : (x >>= f) w = f (x w).1 (x w).2 := rfl
  rw [hbind, h]

variable {policy sleep check} {k : Nat} {w w' : σ} {a : α}

/-- A round whose check is ready is the last. -/
theorem rounds_of_ready (h : round policy sleep check k w = (some a, w')) (remaining : Nat) :
    rounds (sleep policy.interval) check (remaining + 1) k w = (some (a, k), w') := by
  have hcheck : check k (sleep policy.interval w).2 = (some a, w') := h
  rw [rounds_succ]
  exact (bind_apply (Prod.eta _).symm).trans (bind_apply hcheck)

/-- A round whose check is not ready is followed by others. -/
theorem rounds_of_pending (h : round policy sleep check k w = (none, w')) (remaining : Nat) :
    rounds (sleep policy.interval) check (remaining + 1) k w =
      rounds (sleep policy.interval) check remaining (k + 1) w' := by
  have hcheck : check k (sleep policy.interval w).2 = (none, w') := h
  rw [rounds_succ]
  exact (bind_apply (Prod.eta _).symm).trans (bind_apply hcheck)

variable (policy sleep check)

/-- The rounds that follow on the first `i`: they end with the first check that is ready, or when
none remains. -/
theorem exists_rounds_after (w : σ) (remaining i : Nat) : ∃ n r,
    rounds (sleep policy.interval) check remaining (i + 1) (after policy sleep check w i) =
        (r, after policy sleep check w n) ∧
      ((∃ a, r = some (a, n) ∧ result policy sleep check w n = some a ∧ i < n ∧
          n ≤ i + remaining ∧ ∀ k, i < k → k < n → result policy sleep check w k = none) ∨
        r = none ∧ n = i + remaining ∧
          ∀ k, i < k → k ≤ n → result policy sleep check w k = none) := by
  induction remaining generalizing i with
  | zero => exact ⟨i, none, rfl, .inr ⟨rfl, rfl, by omega⟩⟩
  | succ remaining ih =>
    have hnext : round policy sleep check (i + 1) (after policy sleep check w i) =
      (result policy sleep check w (i + 1), after policy sleep check w (i + 1)) := rfl
    cases hresult : result policy sleep check w (i + 1) with
    | some a =>
      rw [hresult] at hnext
      exact ⟨i + 1, some (a, i + 1), rounds_of_ready hnext remaining,
        .inl ⟨a, rfl, hresult, by omega, by omega, by omega⟩⟩
    | none =>
      rw [hresult] at hnext
      rw [rounds_of_pending hnext]
      obtain ⟨n, r, hrounds, hend⟩ := ih (i + 1)
      -- the number that comes next has nothing, and the others are those of the rounds behind it
      have hmore {m : Nat} (h : ∀ k, i + 1 < k → k < m → result policy sleep check w k = none)
          (k : Nat) (hik : i < k) (hkm : k < m) : result policy sleep check w k = none := by
        obtain rfl | hlt := Nat.eq_or_lt_of_le (Nat.succ_le_of_lt hik)
        · exact hresult
        · exact h k hlt hkm
      refine ⟨n, r, hrounds, ?_⟩
      obtain ⟨a, hr, ha, hin, hn, hbefore⟩ | ⟨hr, hn, hnone⟩ := hend
      · exact .inl ⟨a, hr, ha, by omega, by omega, hmore hbefore⟩
      · refine .inr ⟨hr, by omega, fun k hik hkn => ?_⟩
        exact hmore (m := n + 1) (fun k h₁ h₂ => hnone k h₁ (Nat.le_of_lt_succ h₂)) k hik
          (Nat.lt_succ_of_le hkn)

/-- Polling goes through as many rounds as the results in its world make it, and no further. -/
theorem exists_run (w : σ) : ∃ n o,
    Stops (result policy sleep check w) policy.maxAttempts n o ∧
      run policy sleep check w = (o, after policy sleep check w n) := by
  obtain ⟨n, r, hrounds, hend⟩ := exists_rounds_after policy sleep check w policy.maxAttempts 0
  have hfirst : rounds (sleep policy.interval) check policy.maxAttempts 1 w =
      (r, after policy sleep check w n) := hrounds
  rw [Nat.zero_add] at hend
  obtain ⟨a, rfl, ha, hpos, hn, hbefore⟩ | ⟨rfl, rfl, hnone⟩ := hend
  · exact ⟨n, .done a n, .ready hpos hn hbefore ha, bind_apply hfirst⟩
  · exact ⟨_, .exhausted policy.maxAttempts, .pending hnone, bind_apply hfirst⟩

end

/-! ## Numbers of checks -/

/-- Only the numbers of the rounds that may come are handed to checks. -/
theorem rounds_congr {m : Type → Type} [Monad m] {pause : m Unit}
    {check check' : Nat → m (Option α)} {remaining attempt : Nat}
    (h : ∀ k, attempt ≤ k → k < attempt + remaining → check k = check' k) :
    rounds pause check remaining attempt = rounds pause check' remaining attempt := by
  induction remaining generalizing attempt with
  | zero => rfl
  | succ remaining ih =>
    have hrest : rounds pause check remaining (attempt + 1) =
        rounds pause check' remaining (attempt + 1) :=
      ih fun k hk hlt => h k (by omega) (by omega)
    rw [rounds_succ, rounds_succ, h attempt (Nat.le_refl _) (by omega), hrest]

/-- A number of so many bits counts the attempts without going round. -/
theorem run_wrapped {m : Type → Type} [Monad m] {policy : Policy} {bits : Nat}
    (hmax : policy.maxAttempts < twoTo bits) (sleep : Nat → m Unit)
    (check : Nat → m (Option α)) :
    run policy sleep (fun k => check (k % twoTo bits)) = run policy sleep check := by
  have hrounds : rounds (sleep policy.interval) (fun k => check (k % twoTo bits))
      policy.maxAttempts 1 = rounds (sleep policy.interval) check policy.maxAttempts 1 :=
    rounds_congr fun k _ hlt => congrArg check (Nat.mod_eq_of_lt (by omega))
  rw [run, run, hrounds]

/-! ## Results laid down in advance -/

/-- What polling does. -/
inductive Entry where
  | slept (seconds : Nat)
  | checked (attempt : Nat)
deriving DecidableEq, Repr

/-- How many of the results are taken, and everything that was done. -/
structure Tape where
  taken : Nat
  diary : List Entry
deriving DecidableEq, Repr

namespace Tape

def start : Tape := ⟨0, []⟩

def sleep (seconds : Nat) : StateM Tape Unit :=
  modify fun t => { t with diary := t.diary ++ [.slept seconds] }

/-- A check takes the result that comes next, whatever its own number. -/
def check (results : Nat → Option α) (attempt : Nat) : StateM Tape (Option α) := fun t =>
  (results (t.taken + 1), ⟨t.taken + 1, t.diary ++ [.checked attempt]⟩)

/-- The pauses and checks of the rounds from one to `n`. -/
def roundsDiary (interval n : Nat) : List Entry :=
  (List.range' 1 n).flatMap fun k => [.slept interval, .checked k]

theorem after_eq (policy : Policy) (results : Nat → Option α) (n : Nat) :
    after policy sleep (check results) start n = ⟨n, roundsDiary policy.interval n⟩ := by
  induction n with
  | zero => rfl
  | succ n ih =>
    have hround (t : Tape) : (round policy sleep (check results) (n + 1) t).2 =
        ⟨t.taken + 1, t.diary ++ [.slept policy.interval] ++ [.checked (n + 1)]⟩ := rfl
    rw [after, ih, hround, roundsDiary, roundsDiary, List.range'_1_concat, List.flatMap_append,
      List.append_assoc, Nat.add_comm 1 n]
    rfl

theorem result_eq (policy : Policy) (results : Nat → Option α) {k : Nat} (hk : 1 ≤ k) :
    result policy sleep (check results) start k = results k := by
  have hround (t : Tape) : (round policy sleep (check results) k t).1 = results (t.taken + 1) := rfl
  rw [result, hround, after_eq, Nat.sub_add_cancel hk]

end Tape

theorem Stops.congr {results results' : Nat → Option α} {bound n : Nat} {o : Outcome α}
    (heq : ∀ k, 1 ≤ k → results k = results' k) (h : Stops results bound n o) :
    Stops results' bound n o := by
  cases h with
  | ready hpos hn hbefore ha =>
    exact .ready hpos hn (fun k hk hlt => heq k hk ▸ hbefore k hk hlt) (heq _ hpos ▸ ha)
  | pending hnone => exact .pending fun k hk hle => heq k hk ▸ hnone k hk hle

/-- Polling goes through the rounds from one to some number, each of them a pause and then the check
with its number, and ends with the first result that is ready or with the last that the policy
allows.  This holds in every world.  Of results laid down in advance just those of the rounds are
taken; and the numbers of the checks are all numbers of thirty-two bits. -/
theorem run_stops (policy : Policy) (hmax : policy.maxAttempts < twoTo 32) :
    (∀ (sleep : Nat → StateM σ Unit) (check : Nat → StateM σ (Option α)) (w : σ), ∃ n o,
      Stops (result policy sleep check w) policy.maxAttempts n o ∧
        run policy sleep check w = (o, after policy sleep check w n)) ∧
    (∀ results : Nat → Option α, ∃ n o, Stops results policy.maxAttempts n o ∧
      run policy Tape.sleep (Tape.check results) Tape.start =
        (o, ⟨n, Tape.roundsDiary policy.interval n⟩)) ∧
    ∀ (sleep : Nat → StateM σ Unit) (check : Nat → StateM σ (Option α)),
      run policy sleep (fun k => check (k % twoTo 32)) = run policy sleep check := by
  refine ⟨exists_run policy, fun results => ?_, run_wrapped hmax⟩
  obtain ⟨n, o, hstops, hrun⟩ := exists_run policy Tape.sleep (Tape.check results) Tape.start
  rw [Tape.after_eq] at hrun
  exact ⟨n, o, hstops.congr fun k hk => Tape.result_eq policy results hk, hrun⟩

/-- The largest policy, of which three rounds are taken. -/
theorem run_stops_thirdAttempt :
    let policy : Policy := ⟨twoTo 32 - 1, 5⟩
    policy.maxAttempts < twoTo 32 ∧
      run policy Tape.sleep (Tape.check fun k => if 3 ≤ k then some k else none) Tape.start =
        (.done 3 3, ⟨3, [.slept 5, .checked 1, .slept 5, .checked 2, .slept 5, .checked 3]⟩) := by
  intro policy
  have hmax : policy.maxAttempts < twoTo 32 := Nat.sub_lt (twoTo_pos 32) Nat.one_pos
  obtain ⟨-, htape, -⟩ := run_stops (σ := Unit) policy hmax
  obtain ⟨n, o, hstops, hrun⟩ := htape fun k => if 3 ≤ k then some k else none
  have hthird : Stops (fun k => if 3 ≤ k then some k else none) policy.maxAttempts 3 (.done 3 3) :=
    .ready (by omega) (by decide) (fun k _ hlt => if_neg (Nat.not_le_of_lt hlt)) rfl
  obtain ⟨rfl, rfl⟩ := hstops.unique hthird
  exact ⟨hmax, hrun⟩

end TokenLaunch.Polling
