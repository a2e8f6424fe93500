import TokenLaunch.Json.Decoder

/-!
# Verification states

How far the verification of a deployed source has come.
-/

namespace TokenLaunch

inductive VerificationState where
  | pending
  | submitted
  | verified
  | failed
  | timedOut
  | skipped
deriving DecidableEq, Repr

namespace VerificationState

def all : List VerificationState := [pending, submitted, verified, failed, timedOut, skipped]

def name : VerificationState → String
  | pending => "pending"
  | submitted => "submitted"
  | verified => "verified"
  | failed => "failed"
  | timedOut => "timed-out"
  | skipped => "skipped"

def ofName? (s : String) : Option VerificationState := all.find? (·.name == s)

theorem ofName?_name (s : VerificationState) : ofName? s.name = some s := by cases s <;> decide

/-- A state as JSON has it. -/
def decoder : Json.Decoder VerificationState := Json.Decoder.oneOf ofName?

/-- Nothing more will happen. -/
def isTerminal : VerificationState → Bool
  | verified | failed | timedOut | skipped => true
  | pending | submitted => false

/-- The name that logs show. -/
def logName : VerificationState → String
  | pending => "Pending"
  | submitted => "Submitted"
  | verified => "Verified"
  | failed => "Failed"
  | timedOut => "TimedOut"
  | skipped => "Skipped"

end VerificationState

end TokenLaunch
