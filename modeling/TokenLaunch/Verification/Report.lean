import TokenLaunch.Submission

/-!
# Reports of verifications

What a verification tells while it runs and when it ends.
-/

namespace TokenLaunch.Verification

inductive Phase where
  | submitting
  | submitted (guid : String)
  | polling (attempt maxAttempts : Nat)
deriving DecidableEq, Repr

/-- The place of a phase among those of a verification. -/
def Phase.index : Phase → Nat
  | submitting => 0
  | submitted _ => 1
  | polling attempt _ => attempt + 1

/-- How a verification ended. -/
structure Report where
  state : VerificationState
  guid : Option String
  polls : Nat
  message : Option String
deriving DecidableEq, Repr

namespace Report

/-- An end before the explorer was asked for a status. -/
def early (state : VerificationState) (message : Option String) : Report :=
  ⟨state, none, 0, message⟩

/-- There is no explorer to ask. -/
def skipped : Report := early .skipped none

/-- Another verification of the same contract runs. -/
def refused (address : String) : Report :=
  early .pending (some (VerificationError.alreadyInFlight address).message)

end Report

end TokenLaunch.Verification
