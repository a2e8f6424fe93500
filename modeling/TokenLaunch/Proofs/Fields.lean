import Mathlib.Tactic.Common
import TokenLaunch.TokenConfig

/-!
# Fields of drafts

What a draft holds in each of its fields, the drafts that agree with it outside some of them, and the
field that an error names.
-/

namespace TokenLaunch

/-- What is entered in a field. -/
def DraftField.Entry : DraftField → Type
  | .maxSupply | .accessManager | .maxHolderLimit | .maxTransactionAmount | .tradingCooldown =>
    Option String
  | .standardFunctions | .securityFunctions | .taxFunctions => List String
  | _ => String

/-- The field that an error names; none where two fields do not go together. -/
def ConfigError.field? : ConfigError → Option DraftField
  | .missing f => some f
  | .badContractName _ => some .tokenName
  | .badNumber f _ _ => some f
  | .badAddress f _ _ => some f
  | .unknownOption f _ => some f
  | .capTooLow _ _ => none

namespace Draft

def entry (d : Draft) : (f : DraftField) → f.Entry
  | .network => d.network
  | .tokenName => d.tokenName
  | .tokenSymbol => d.tokenSymbol
  | .decimals => d.decimals
  | .initialSupply => d.initialSupply
  | .maxSupply => d.maxSupply
  | .accessControl => d.accessControl
  | .accessManager => d.accessManager
  | .standardFunctions => d.standardFunctions
  | .securityFunctions => d.securityFunctions
  | .taxFunctions => d.taxFunctions
  | .upgradeability => d.upgradeability
  | .presaleType => d.presaleType
  | .maxHolderLimit => d.maxHolderLimit
  | .maxTransactionAmount => d.maxTransactionAmount
  | .tradingCooldown => d.tradingCooldown

/-- The draft with such entries. -/
def ofEntries (entry : (f : DraftField) → f.Entry) : Draft where
  network := entry .network
  tokenName := entry .tokenName
  tokenSymbol := entry .tokenSymbol
  decimals := entry .decimals
  initialSupply := entry .initialSupply
  maxSupply := entry .maxSupply
  accessControl := entry .accessControl
  accessManager := entry .accessManager
  standardFunctions := entry .standardFunctions
  securityFunctions := entry .securityFunctions
  taxFunctions := entry .taxFunctions
  upgradeability := entry .upgradeability
  presaleType := entry .presaleType
  maxHolderLimit := entry .maxHolderLimit
  maxTransactionAmount := entry .maxTransactionAmount
  tradingCooldown := entry .tradingCooldown

theorem entry_ofEntries (entry : (f : DraftField) → f.Entry) (f : DraftField) :
    (ofEntries entry).entry f = entry f := by
  cases f <;> rfl

/-- Drafts hold the same in every field but these. -/
def AgreeOff (fields : DraftField → Prop) (d d' : Draft) : Prop :=
  ∀ f, ¬ fields f → d.entry f = d'.entry f

/-- Anything can be entered in one field alone. -/
theorem exists_agreeOff (d : Draft) (f : DraftField) (v : f.Entry) :
    ∃ d', AgreeOff (· = f) d d' ∧ d'.entry f = v := by
  refine ⟨ofEntries fun g => if h : g = f then h ▸ v else d.entry g, fun g hg => ?_, ?_⟩
  · rw [entry_ofEntries, dif_neg hg]
  · rw [entry_ofEntries, dif_pos rfl]

/-! ## The entries that a check reads -/

variable {d d' : Draft}

theorem checkNetwork_congr (h : d.network = d'.network) : d.checkNetwork = d'.checkNetwork := by
  simp only [checkNetwork, h]

theorem checkDecimals_congr (h : d.decimals = d'.decimals) :
    d.checkDecimals = d'.checkDecimals := by
  simp only [checkDecimals, h]

theorem checkAuthority_congr (h : d.accessManager = d'.accessManager) (access : AccessControl) :
    d.checkAuthority access = d'.checkAuthority access := by
  simp only [checkAuthority, h]

theorem checkCap_congr (h : d.maxSupply = d'.maxSupply) (chosen : Bool) (decimals : Nat)
    (initial : Amount) : d.checkCap chosen decimals initial = d'.checkCap chosen decimals initial := by
  simp only [checkCap, h]

end Draft

end TokenLaunch
