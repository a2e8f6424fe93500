import TokenLaunch.Deployment
import TokenLaunch.Signer
import TokenLaunch.Verification.Report

/-!
# Sessions

What launches and verifications do, one after the other: their calls to services, their pauses and
what they tell of themselves, in one journal.
-/

namespace TokenLaunch

/-- What a launch tells while it runs. -/
inductive Event where
  | preparing
  | deploying
  | confirming (address : String)
  | verifying (address : String)
  | polling (attempt maxAttempts : Nat)
  | done (deployment : Deployment)
  | error (message : String)
deriving DecidableEq, Repr

/-- An entry of a journal. -/
inductive Act where
  | compile (source : String)
  | flatten (source : String)
  | submit (endpoint : Endpoint) (submission : Submission)
  | check (endpoint : Endpoint) (guid : String)
  | sleep (seconds : Nat)
  | askAddress
  | deploy (abi : Abi.Interface) (bytecode : String) (arguments : List Abi.Value)
  | awaitMined
  | awaitConfirmed (confirmations : Nat)
  | phase (p : Verification.Phase)
  | event (e : Event)
  /-- A verification begins inside another. -/
  | enter
  /-- A verification inside another ends. -/
  | leave (report : Verification.Report)

/-- Where a session stands. -/
structure Session (σ : Type) where
  /-- The state of the services. -/
  world : σ
  /-- The addresses of the contracts that are being verified, in lower case. -/
  inFlight : List String
  journal : List Act

/-- A part of a session with services that act on states of `σ`. -/
abbrev Run (σ : Type) := StateM (Session σ)

namespace Session

variable {σ α : Type}

/-- Nothing is done yet. -/
def start (world : σ) : Session σ := ⟨world, [], []⟩

/-- Writes an entry. -/
def act (a : Act) : Run σ Unit := modify fun s => { s with journal := s.journal ++ [a] }

/-- Lets the services act. -/
def ask (x : StateM σ α) : Run σ α := fun s =>
  let (a, world) := x s.world
  (a, { s with world })

/-- Writes an entry and lets the services act. -/
def call (a : Act) (x : StateM σ α) : Run σ α := do
  act a
  ask x

theorem act_apply (a : Act) (s : Session σ) :
    (act a : Run σ Unit) s = ((), { s with journal := s.journal ++ [a] }) := rfl

/-- A call is written before it is answered. -/
theorem call_apply (a : Act) (x : StateM σ α) (s : Session σ) :
    call a x s =
      ((x s.world).1, { s with journal := s.journal ++ [a], world := (x s.world).2 }) := rfl

def sleep (seconds : Nat) : Run σ Unit := act (.sleep seconds)

def emit (e : Event) : Run σ Unit := act (.event e)

/-! ## Claims on contracts -/

/-- The text under which the verification of a contract is known. -/
def key (address : String) : String := Text.lower address

/-- Claims a contract, unless it is claimed already. -/
def claim (address : String) : Run σ Bool := fun s =>
  if s.inFlight.contains (key address) then (false, s)
  else (true, { s with inFlight := key address :: s.inFlight })

def release (address : String) : Run σ Unit :=
  modify fun s => { s with inFlight := s.inFlight.erase (key address) }

theorem claim_apply_of_mem {address : String} {s : Session σ} (h : key address ∈ s.inFlight) :
    claim address s = (false, s) := by
  simp [claim, h]

theorem claim_apply_of_not_mem {address : String} {s : Session σ} (h : key address ∉ s.inFlight) :
    claim address s = (true, { s with inFlight := key address :: s.inFlight }) := by
  simp [claim, h]

theorem release_apply (address : String) (s : Session σ) :
    release address s = ((), { s with inFlight := s.inFlight.erase (key address) }) := rfl

end Session

end TokenLaunch
