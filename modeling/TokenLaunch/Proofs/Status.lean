import Mathlib.Data.List.Infix
import TokenLaunch.Submission

/-!
# Words of explorers

What the status of a submission says, in terms of the characters of the text alone.
-/

namespace TokenLaunch

namespace Text

theorem occursIn_iff {needle hay : List Char} : occursIn needle hay = true ↔ needle <:+: hay := by
  induction hay with
  | nil => rw [occursIn, List.isEmpty_iff, List.infix_nil]
  | cons c hay ih =>
    rw [occursIn, Bool.or_eq_true, List.isPrefixOf_iff_prefix, ih, List.infix_cons_iff]

theorem contains_iff {s needle : String} :
    contains s needle = true ↔ needle.toList <:+: s.toList := occursIn_iff

end Text

/-- The words of a source that is verified, or has been before; the case of letters does not matter
for the latter. -/
def SaysVerified (text : String) : Prop :=
  text = "Pass - Verified" ∨ "already verified".toList <:+: text.toList.map Char.toLower

/-- The state that a text tells of, if it tells of an end at all. -/
inductive Tells (text : String) : VerificationState → Prop
  | verified (h : SaysVerified text) : Tells text .verified
  | failed (hno : ¬ SaysVerified text) (h : "Fail".toList <:+: text.toList) : Tells text .failed

theorem saysAlreadyVerified_iff {text : String} : saysAlreadyVerified text = true ↔
    "already verified".toList <:+: text.toList.map Char.toLower := by
  rw [saysAlreadyVerified, Text.contains_iff, Text.lower, String.toList_map]

theorem classify?_eq_some_iff {text : String} {state : VerificationState} :
    classify? text = some state ↔ Tells text state := by
  have hverified : (text = "Pass - Verified" ∨ saysAlreadyVerified text = true) ↔
      SaysVerified text := by
    rw [saysAlreadyVerified_iff, SaysVerified]
  unfold classify?
  constructor
  · intro h
    split at h
    case isTrue hyes =>
      obtain rfl := Option.some.inj h
      exact .verified (hverified.mp hyes)
    case isFalse hno =>
      split at h
      case isTrue hfail =>
        obtain rfl := Option.some.inj h
        exact .failed (mt hverified.mpr hno) (Text.contains_iff.mp hfail)
      case isFalse => cases h
  · intro h
    cases h with
    | verified h => rw [if_pos (hverified.mpr h)]
    | failed hno h => rw [if_neg (mt hverified.mp hno), if_pos (Text.contains_iff.mpr h)]

theorem Tells.isTerminal {text : String} {state : VerificationState} (h : Tells text state) :
    state.isTerminal = true := by
  cases h <;> rfl

end TokenLaunch
