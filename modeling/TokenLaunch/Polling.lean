/-!
# Polling

Asking again and again, after equal pauses, until something is ready.
-/

namespace TokenLaunch.Polling

/-- How often to ask and how long to wait before each time, in seconds. -/
structure Policy where
  maxAttempts : Nat
  interval : Nat
deriving DecidableEq, Repr

inductive Outcome (α : Type) where
  /-- The attempt with this number gave a value. -/
  | done (value : α) (attempts : Nat)
  | exhausted (attempts : Nat)
deriving DecidableEq, Repr

variable {m : Type → Type} [Monad m] {α : Type}

/-- Up to `remaining` rounds, numbered from `attempt` on: a pause and a check, which gives a value
when it is ready. -/
def rounds (pause : m Unit) (check : Nat → m (Option α)) : Nat → Nat → m (Option (α × Nat))
  | 0, _ => return none
  | remaining + 1, attempt => do
    pause
    match ← check attempt with
    | some a => return some (a, attempt)
    | none => rounds pause check remaining (attempt + 1)

theorem rounds_zero (pause : m Unit) (check : Nat → m (Option α)) (attempt : Nat) :
    rounds pause check 0 attempt = pure none := rfl

theorem rounds_succ (pause : m Unit) (check : Nat → m (Option α)) (remaining attempt : Nat) :
    rounds pause check (remaining + 1) attempt = (do
      pause
      match ← check attempt with
      | some a => return some (a, attempt)
      | none => rounds pause check remaining (attempt + 1)) := rfl

/-- Asks until a check is ready, but not more often than the policy allows. -/
def run (policy : Policy) (sleep : Nat → m Unit) (check : Nat → m (Option α)) : m (Outcome α) := do
  match ← rounds (sleep policy.interval) check policy.maxAttempts 1 with
  | some (a, attempts) => return .done a attempts
  | none => return .exhausted policy.maxAttempts

end TokenLaunch.Polling
