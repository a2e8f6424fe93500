import TokenLaunch.Polling
import TokenLaunch.Proofs.Journal

/-!
# Rounds of polling

What polling writes and gives, for checks of which it is known what they write and give.
-/

namespace TokenLaunch.Polling

open Session

variable {σ α : Type} {held : List String}

/-- Up to `remaining` rounds from `attempt` on.  The relation `C` holds what a check with a number
does: where it starts, its entries, its value and where it ends. -/
inductive Rounds (interval : Nat) (C : Nat → σ → List Act → Option α → σ → Prop) :
    Nat → Nat → σ → List Act → Option (α × Nat) → σ → Prop
  | exhausted {attempt : Nat} {w : σ} : Rounds interval C 0 attempt w [] none w
  | ready {remaining attempt : Nat} {w w₁ : σ} {acts : List Act} {a : α}
      (h : C attempt w acts (some a) w₁) :
      Rounds interval C (remaining + 1) attempt w (.sleep interval :: acts) (some (a, attempt)) w₁
  | pending {remaining attempt : Nat} {w w₁ w₂ : σ} {acts acts' : List Act} {r : Option (α × Nat)}
      (h : C attempt w acts none w₁)
      (rest : Rounds interval C remaining (attempt + 1) w₁ acts' r w₂) :
      Rounds interval C (remaining + 1) attempt w (.sleep interval :: (acts ++ acts')) r w₂

/-- The rounds that a policy allows, and what comes of them. -/
inductive Asks (policy : Policy) (C : Nat → σ → List Act → Option α → σ → Prop) (w : σ) :
    List Act → Outcome α → σ → Prop
  | done {acts : List Act} {a : α} {attempts : Nat} {w' : σ}
      (h : Rounds policy.interval C policy.maxAttempts 1 w acts (some (a, attempts)) w') :
      Asks policy C w acts (.done a attempts) w'
  | exhausted {acts : List Act} {w' : σ}
      (h : Rounds policy.interval C policy.maxAttempts 1 w acts none w') :
      Asks policy C w acts (.exhausted policy.maxAttempts) w'

variable {C : Nat → σ → List Act → Option α → σ → Prop} {check : Nat → Run σ (Option α)}

theorem exists_rounds
    (hcheck : ∀ attempt w, ∃ acts a w',
      Does (check attempt) held w acts a w' ∧ C attempt w acts a w')
    (interval remaining attempt : Nat) (w : σ) :
    ∃ acts r w', Does (rounds (sleep interval) check remaining attempt) held w acts r w' ∧
      Rounds interval C remaining attempt w acts r w' := by
  induction remaining generalizing attempt w with
  | zero => exact ⟨[], none, w, does_pure none, .exhausted⟩
  | succ remaining ih =>
    obtain ⟨acts, answer, w₁, hdoes, hC⟩ := hcheck attempt w
    rw [rounds_succ]
    cases answer with
    | some a =>
      refine ⟨.sleep interval :: acts, _, w₁, ?_, .ready hC⟩
      exact (does_act (.sleep interval)).bind (hdoes.bind_pure rfl)
    | none =>
      obtain ⟨acts', r, w₂, hrest, hrounds⟩ := ih (attempt + 1) w₁
      refine ⟨.sleep interval :: (acts ++ acts'), r, w₂, ?_, .pending hC hrounds⟩
      exact (does_act (.sleep interval)).bind (hdoes.bind hrest)

theorem exists_asks (policy : Policy)
    (hcheck : ∀ attempt w, ∃ acts a w',
      Does (check attempt) held w acts a w' ∧ C attempt w acts a w')
    (w : σ) :
    ∃ acts o w', Does (run policy sleep check) held w acts o w' ∧ Asks policy C w acts o w' := by
  obtain ⟨acts, r, w', hdoes, hrounds⟩ :=
    exists_rounds hcheck policy.interval policy.maxAttempts 1 w
  unfold run
  cases r with
  | none =>
    exact ⟨_, _, _, hdoes.bind_pure rfl, .exhausted hrounds⟩
  | some r => exact ⟨_, _, _, hdoes.bind_pure rfl, .done hrounds⟩

/-- Where the entries of a check depend on its number alone, polling writes one block for each of
the consecutive numbers of its rounds. -/
theorem Rounds.acts_eq {interval remaining attempt : Nat} {w w' : σ} {acts : List Act}
    {r : Option (α × Nat)} {entries : Nat → List Act}
    (hC : ∀ {attempt w acts a w'}, C attempt w acts a w' → acts = entries attempt)
    (h : Rounds interval C remaining attempt w acts r w') :
    ∃ n, n ≤ remaining ∧
      acts = (List.range' attempt n).flatMap fun k => .sleep interval :: entries k := by
  induction h with
  | exhausted => exact ⟨0, Nat.le_refl 0, rfl⟩
  | ready h =>
    refine ⟨1, by omega, ?_⟩
    rw [hC h]
    simp
  | pending h rest ih =>
    obtain ⟨n, hn, heq⟩ := ih
    refine ⟨n + 1, by omega, ?_⟩
    rw [hC h, heq, List.range'_succ, List.flatMap_cons, List.cons_append]

theorem Asks.acts_eq {policy : Policy} {w w' : σ} {acts : List Act} {o : Outcome α}
    {entries : Nat → List Act}
    (hC : ∀ {attempt w acts a w'}, C attempt w acts a w' → acts = entries attempt)
    (h : Asks policy C w acts o w') :
    ∃ n, n ≤ policy.maxAttempts ∧
      acts = (List.range' 1 n).flatMap fun k => .sleep policy.interval :: entries k := by
  cases h with
  | done h => exact h.acts_eq hC
  | exhausted h => exact h.acts_eq hC

end TokenLaunch.Polling
