import TokenLaunch.Proofs.Fields
import TokenLaunch.Proofs.Intent

/-!
# Idle fields

The fields that belong to a feature are read only where a text of the draft names that feature.
Elsewhere they may hold anything, and validation ends as it would with anything else in them: in the
same configuration, or in the same error.
-/

namespace TokenLaunch

open Choice

/-- Sequences end alike if their first steps do and the rest does with what these give. -/
theorem bind_congr_ok {ε α β : Type} {x y : Except ε α} {j k : α → Except ε β} (h : x = y)
    (hrest : ∀ a, x = .ok a → j a = k a) : (x >>= j) = (y >>= k) := by
  subst h
  cases x with
  | error e => rfl
  | ok a => exact hrest a rfl

namespace Draft

/-- A field that belongs to a feature which the draft does not name. -/
def Idle (d : Draft) : DraftField → Prop
  | .maxSupply => ¬ ∃ s ∈ d.standardFunctions, Names s StandardFunction.cap
  | .maxHolderLimit | .maxTransactionAmount =>
    ¬ ∃ s ∈ d.securityFunctions, Names s SecurityFunction.antiWhale
  | .tradingCooldown => ¬ ∃ s ∈ d.securityFunctions, Names s SecurityFunction.antiBot
  | .accessManager => ¬ Names d.accessControl AccessControl.manager
  | _ => False

variable {d d' : Draft}

/-- A feature is chosen only if a text of its list names it. -/
theorem names_of_contains {α : Type} [Choice α] [Lawful α] [DecidableEq α] {field : DraftField}
    {ss : List String} {as : List α} {a : α} (h : choices field ss = .ok as)
    (ha : as.contains a = true) : ∃ s ∈ ss, Names s a := by
  obtain ⟨-, rfl⟩ := choices_eq_ok_iff.mp h
  exact mem_named.mp (List.contains_iff_mem.mp ha)

section Unchosen

variable {chosen : Bool} {decimals : Nat}

theorem checkAuthority_congr_of_eq_manager {access : AccessControl}
    (h : access = .manager → d.accessManager = d'.accessManager) :
    d.checkAuthority access = d'.checkAuthority access := by
  by_cases hmanager : access = .manager
  · exact checkAuthority_congr (h hmanager) access
  · rw [checkAuthority, if_neg hmanager, checkAuthority, if_neg hmanager]

theorem checkCap_congr_of_chosen {initial : Amount}
    (h : chosen = true → d.maxSupply = d'.maxSupply) :
    d.checkCap chosen decimals initial = d'.checkCap chosen decimals initial := by
  cases chosen with
  | false => simp only [checkCap, Bool.false_eq_true, if_false]
  | true => exact checkCap_congr (h rfl) true decimals initial

theorem checkAntiWhale_congr_of_chosen
    (hholder : chosen = true → d.maxHolderLimit = d'.maxHolderLimit)
    (htransaction : chosen = true → d.maxTransactionAmount = d'.maxTransactionAmount) :
    d.checkAntiWhale chosen decimals = d'.checkAntiWhale chosen decimals := by
  cases chosen with
  | false => simp only [checkAntiWhale, Bool.false_eq_true, if_false]
  | true => exact checkAntiWhale_congr (by rw [hholder rfl]) (by rw [htransaction rfl])

theorem checkCooldown_congr_of_chosen
    (h : chosen = true → d.tradingCooldown = d'.tradingCooldown) :
    d.checkCooldown chosen = d'.checkCooldown chosen := by
  cases chosen with
  | false => simp only [checkCooldown, Bool.false_eq_true, if_false]
  | true => exact checkCooldown_congr (by rw [h rfl])

end Unchosen

/-- What idle fields hold has no influence. -/
theorem validate_eq_of_agreeOff_idle (h : AgreeOff d.Idle d d') : d.validate = d'.validate := by
  have hnetwork : d.network = d'.network := h .network id
  have hname : d.tokenName = d'.tokenName := h .tokenName id
  have hsymbol : d.tokenSymbol = d'.tokenSymbol := h .tokenSymbol id
  have hdecimals : d.decimals = d'.decimals := h .decimals id
  have hsupply : d.initialSupply = d'.initialSupply := h .initialSupply id
  have haccess : d.accessControl = d'.accessControl := h .accessControl id
  have hstandard : d.standardFunctions = d'.standardFunctions := h .standardFunctions id
  have hsecurity : d.securityFunctions = d'.securityFunctions := h .securityFunctions id
  have htax : d.taxFunctions = d'.taxFunctions := h .taxFunctions id
  have hupgrade : d.upgradeability = d'.upgradeability := h .upgradeability id
  have hpresale : d.presaleType = d'.presaleType := h .presaleType id
  unfold validate
  refine bind_congr_ok (checkNetwork_congr hnetwork) fun network _ => ?_
  refine bind_congr_ok (by rw [hname]) fun tokenName _ => ?_
  refine bind_congr_ok (by rw [hsymbol]) fun tokenSymbol _ => ?_
  refine bind_congr_ok rfl fun contractName _ => ?_
  refine bind_congr_ok (checkDecimals_congr hdecimals) fun decimals _ => ?_
  refine bind_congr_ok (by rw [hsupply]) fun supply _ => ?_
  refine bind_congr_ok rfl fun initialSupply _ => ?_
  refine bind_congr_ok (by rw [haccess]) fun accessControl hchosen => ?_
  -- a field is in use as soon as its feature is among those that were read
  refine bind_congr_ok (checkAuthority_congr_of_eq_manager fun hmanager =>
    h .accessManager (not_not_intro (choice_eq_ok_iff.mp (hmanager ▸ hchosen))))
    fun accessManager _ => ?_
  refine bind_congr_ok (by rw [hstandard]) fun standardFunctions hfunctions => ?_
  refine bind_congr_ok (by rw [hsecurity]) fun securityFunctions hguards => ?_
  refine bind_congr_ok (by rw [htax]) fun taxFunctions _ => ?_
  refine bind_congr_ok (by rw [hupgrade]) fun upgradeability _ => ?_
  refine bind_congr_ok (by rw [hpresale]) fun presaleType _ => ?_
  refine bind_congr_ok (checkCap_congr_of_chosen fun hcap =>
    h .maxSupply (not_not_intro (names_of_contains hfunctions hcap))) fun maxSupply _ => ?_
  refine bind_congr_ok (checkAntiWhale_congr_of_chosen
    (fun hlimits => h .maxHolderLimit (not_not_intro (names_of_contains hguards hlimits)))
    (fun hlimits => h .maxTransactionAmount (not_not_intro (names_of_contains hguards hlimits))))
    fun antiWhale _ => ?_
  exact bind_congr_ok (checkCooldown_congr_of_chosen fun hrest =>
    h .tradingCooldown (not_not_intro (names_of_contains hguards hrest))) fun _ _ => rfl

/-- A draft with nothing in the fields of features. -/
def plainDraft : Draft := { Draft.default with
  network := "sepolia"
  tokenName := "Tin"
  tokenSymbol := "TIN"
  initialSupply := "1"
  accessControl := "ownable"
  standardFunctions := ["mint", " Burn"]
  securityFunctions := ["blacklist"] }

/-- The same with something in each of them that its feature would not have. -/
def litteredDraft : Draft := { plainDraft with
  maxSupply := some "0.5"
  accessManager := some "nobody"
  maxHolderLimit := some "1e18"
  maxTransactionAmount := some " "
  tradingCooldown := some "soon" }

theorem validate_litteredDraft : AgreeOff plainDraft.Idle plainDraft litteredDraft ∧
    plainDraft.validate = litteredDraft.validate ∧ ∃ c, litteredDraft.validate = .ok c := by
  have hcap : ¬ ∃ s ∈ plainDraft.standardFunctions, Names s StandardFunction.cap := by
    decide +kernel
  have hlimits : ¬ ∃ s ∈ plainDraft.securityFunctions, Names s SecurityFunction.antiWhale := by
    decide +kernel
  have hrest : ¬ ∃ s ∈ plainDraft.securityFunctions, Names s SecurityFunction.antiBot := by
    decide +kernel
  have hmanager : ¬ Names plainDraft.accessControl AccessControl.manager := by decide +kernel
  have hsame : AgreeOff plainDraft.Idle plainDraft litteredDraft := by
    intro f hf
    cases f with
    | maxSupply => exact absurd hcap hf
    | maxHolderLimit => exact absurd hlimits hf
    | maxTransactionAmount => exact absurd hlimits hf
    | tradingCooldown => exact absurd hrest hf
    | accessManager => exact absurd hmanager hf
    | _ => rfl
  have haccepted : litteredDraft.validate.toOption.any (fun _ => true) = true := by decide +kernel
  obtain ⟨c, hc, -⟩ := exists_of_validate haccepted
  exact ⟨hsame, validate_eq_of_agreeOff_idle hsame, c, hc⟩

end Draft

end TokenLaunch
