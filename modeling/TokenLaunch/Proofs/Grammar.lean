import TokenLaunch.Proofs.Address
import TokenLaunch.Proofs.Choice
import TokenLaunch.Proofs.Inheritance
import TokenLaunch.Proofs.Integer

/-!
# The grammar of drafts

What the texts of a draft have to be for it to be accepted, said of the texts themselves, and what its
configuration then is.  The decimals bind the texts together: every amount is read at them, and they
are bounded only because an initial supply is.
-/

namespace TokenLaunch

open Text Choice

/-- A letter is no blank. -/
theorem isBlank_of_isAlpha {x : Char} (h : x.isAlpha = true) : isBlank x = false := by
  have hrange : 65 ≤ x.toNat ∧ x.toNat ≤ 122 := by
    rcases Bool.or_eq_true_iff.mp h with hupper | hlower
    · have := isUpper_iff_toNat.mp hupper
      omega
    · have := isLower_iff_toNat.mp hlower
      omega
  rw [Bool.eq_false_iff]
  intro hblank
  simp only [isBlank, Bool.or_eq_true, Bool.and_eq_true, decide_eq_true_eq, beq_iff_eq] at hblank
  omega

theorem DenotesInteger.ne_nil {cs : List Char} {n : Nat} (h : DenotesInteger cs n) : cs ≠ [] := by
  cases h with
  | digits h => exact h.1
  | plus h => exact List.cons_ne_nil _ _

/-- An accepted amount: the whole base units in the quantity that a text stands for, which fit a word
of the chain. -/
def Quantifies (s : String) (decimals n : Nat) : Prop := Scaled s decimals n ∧ n < 2 ^ 256

/-- Blanks are no quantity. -/
theorem Quantifies.trim_ne {s : String} {decimals n : Nat} (h : Quantifies s decimals n) :
    trim s ≠ "" := by
  obtain ⟨⟨r, hr, -⟩, -⟩ := h
  intro hempty
  rw [hempty, Quantity.denotes_iff] at hr
  obtain ⟨q, hq, -⟩ := hr
  cases hq

theorem Amount.parse_eq_ok_iff_quantifies {s : String} {decimals : Nat} {a : Amount} :
    parse s decimals = .ok a ↔
      decimals ≤ 77 ∧ a.entered = trim s ∧ Quantifies s decimals a.baseUnits := by
  rw [parse_eq_ok_iff]
  constructor
  · rintro ⟨hle, r, hr, hlt, rfl⟩
    exact ⟨hle, rfl, ⟨r, hr, rfl⟩, hlt⟩
  · rintro ⟨hle, hentered, ⟨r, hr, hunits⟩, hlt⟩
    rw [hunits] at hlt
    refine ⟨hle, r, hr, hlt, ?_⟩
    rw [← hunits, ← hentered]

/-- A text names a network: blanks around it and the case of letters set aside, it is its slug. -/
theorem Network.parse?_eq_some_iff {s : String} {n : Network} :
    parse? s = some n ↔ lower (trim s) = n.slug := by
  rw [parse?]
  constructor
  · intro h
    have hslug := List.find?_some (p := fun n : Network => n.slug == lower (trim s)) h
    exact (beq_iff_eq.mp hslug).symm
  · intro h
    rw [h, ofSlug?_slug]

namespace Draft

/-! ## What the other checks have seen -/

theorem isBlankText_of_filled {field : DraftField} {s t : String} (h : filled field s = .ok t) :
    isBlankText s = false := by
  obtain ⟨rfl, hne⟩ := filled_eq_ok_iff.mp h
  exact trim_ne_empty_iff.mp hne

theorem checkNetwork_eq_ok_iff {d : Draft} {n : Network} :
    d.checkNetwork = .ok n ↔ lower (trim d.network) = n.slug := by
  simp only [checkNetwork, bind_eq_ok_iff, filled_eq_ok_iff]
  constructor
  · rintro ⟨_, ⟨rfl, -⟩, h⟩
    split at h
    · rename_i hparse
      obtain rfl := Except.ok.inj h
      rwa [Network.parse?_eq_some_iff, trim_trim] at hparse
    · cases h
  · intro h
    refine ⟨_, ⟨rfl, ?_⟩, ?_⟩
    · intro hempty
      rw [hempty] at h
      cases n <;> exact absurd h (by decide +kernel)
    · rw [Network.parse?_eq_some_iff.mpr (by rw [trim_trim, h])]

theorem not_denotesInteger_of_blank {s : String} (h : isBlankText s = true) (n : Nat) :
    ¬ DenotesInteger (trim s).toList n := by
  rw [trim_eq_empty_iff.mpr h]
  exact fun hdenotes => hdenotes.ne_nil rfl

theorem checkDecimals_eq_ok_iff {d : Draft} {n : Nat} :
    d.checkDecimals = .ok n ↔
      isBlankText d.decimals = true ∧ n = 18 ∨
        DenotesInteger (trim d.decimals).toList n ∧ n < 256 := by
  rw [checkDecimals, mapError_eq_ok_iff]
  by_cases hblank : isBlankText d.decimals = true
  · have hempty : trim d.decimals = "" := trim_eq_empty_iff.mpr hblank
    have hread : readInteger 256 "18" = .ok 18 := rfl
    rw [if_pos (by rw [hempty]; rfl), hread]
    simp only [Except.ok.injEq, hblank, not_denotesInteger_of_blank hblank, false_and, or_false,
      true_and]
    exact eq_comm
  · have hne : trim d.decimals ≠ "" := fun h => hblank (trim_eq_empty_iff.mp h)
    rw [if_neg (by simpa using hne), readInteger_eq_ok_iff (by decide)]
    simp only [hblank, Bool.false_eq_true, false_and, false_or]

theorem checkCooldown_eq_ok_iff {d : Draft} {chosen : Bool} {cooldown : Option Nat} :
    d.checkCooldown chosen = .ok cooldown ↔
      chosen = false ∧ cooldown = none ∨
        chosen = true ∧ ∃ n, cooldown = some n ∧
          (isBlankText (d.tradingCooldown.getD "") = true ∧ n = 30 ∨
            DenotesInteger (trim (d.tradingCooldown.getD "")).toList n ∧ n < 2 ^ 64) := by
  cases chosen with
  | false => simpa [checkCooldown] using eq_comm
  | true =>
    simp only [checkCooldown, if_pos, Bool.true_eq_false, false_and, true_and, false_or]
    generalize d.tradingCooldown.getD "" = s
    by_cases hblank : isBlankText s = true
    · have hempty : trim s = "" := trim_eq_empty_iff.mpr hblank
      rw [if_pos (by rw [hempty]; rfl)]
      simp only [defaultCooldown, Except.ok.injEq, hblank, not_denotesInteger_of_blank hblank,
        false_and, or_false, true_and, exists_eq_right]
      exact eq_comm
    · have hne : trim s ≠ "" := fun h => hblank (trim_eq_empty_iff.mp h)
      have hmap {x : Except ConfigError Nat} :
          x.map some = .ok cooldown ↔ ∃ n, cooldown = some n ∧ x = .ok n := by
        cases x <;> simp [Except.map, eq_comm]
      rw [if_neg (by simpa using hne), hmap]
      simp only [mapError_eq_ok_iff, readInteger_eq_ok_iff (twoTo_pos 64), hblank,
        Bool.false_eq_true, false_and, false_or]
      rfl

/-! ## The grammar -/

/-- A draft of the grammar, whose texts stand for so many decimals and so much of an initial
supply. -/
structure Grammatical (d : Draft) (scale supply : Nat) : Prop where
  network : ∃ n : Network, lower (trim d.network) = n.slug
  tokenName : isBlankText d.tokenName = false
  /-- What the contract is named after. -/
  letter : ∃ x ∈ d.tokenName.toList, x.isAlpha = true
  tokenSymbol : isBlankText d.tokenSymbol = false
  decimals : isBlankText d.decimals = true ∧ scale = 18 ∨
    DenotesInteger (trim d.decimals).toList scale ∧ scale ≤ 77
  initialSupply : Quantifies d.initialSupply scale supply
  accessControl : ∃ a : AccessControl, Names d.accessControl a
  accessManager : Names d.accessControl AccessControl.manager →
    ∃ s a, d.accessManager = some s ∧ Address.Written (trim s) a ∧ a ≠ 0
  standardFunctions : ∀ s ∈ d.standardFunctions, ∃ f : StandardFunction, Names s f
  securityFunctions : ∀ s ∈ d.securityFunctions, ∃ f : SecurityFunction, Names s f
  taxFunctions : ∀ s ∈ d.taxFunctions, ∃ f : TaxFunction, Names s f
  upgradeability : isBlankText d.upgradeability = true ∨
    ∃ u : Upgradeability, Names d.upgradeability u
  presaleType : isBlankText d.presaleType = true ∨ ∃ p : PresaleType, Names d.presaleType p
  cap : (∃ s ∈ d.standardFunctions, Names s StandardFunction.cap) →
    ∃ s cap, d.maxSupply = some s ∧ Quantifies s scale cap ∧ supply < cap
  antiWhale : (∃ s ∈ d.securityFunctions, Names s SecurityFunction.antiWhale) →
    ∃ holder transaction holderLimit transactionLimit,
      d.maxHolderLimit = some holder ∧ Quantifies holder scale holderLimit ∧
      d.maxTransactionAmount = some transaction ∧
      Quantifies transaction scale transactionLimit
  antiBot : (∃ s ∈ d.securityFunctions, Names s SecurityFunction.antiBot) →
    ∀ s, d.tradingCooldown = some s →
      isBlankText s = true ∨ ∃ n, DenotesInteger (trim s).toList n ∧ n < 2 ^ 64

namespace Grammatical

variable {d : Draft} {scale supply : Nat}

theorem decimals_le (h : d.Grammatical scale supply) : scale ≤ 77 := by
  rcases h.decimals with ⟨-, rfl⟩ | ⟨-, hle⟩
  · decide
  · exact hle

theorem exists_checkAuthority (h : d.Grammatical scale supply) {access : AccessControl}
    (haccess : Names d.accessControl access) : ∃ a, d.checkAuthority access = .ok a := by
  by_cases hmanager : access = .manager
  · subst hmanager
    obtain ⟨s, a, hs, hwritten, hne⟩ := h.accessManager haccess
    have hparse := Address.parse_eq_ok_iff.mpr hwritten
    refine ⟨some a, checkAuthority_eq_ok_iff.mpr (.inr ⟨rfl, trim s, a, ?_, hparse, hne, rfl⟩)⟩
    rw [hs]
    exact filled_eq_ok_iff.mpr ⟨rfl, hwritten.ne_empty⟩
  · exact ⟨none, checkAuthority_eq_ok_iff.mpr (.inl ⟨hmanager, rfl⟩)⟩

theorem exists_checkCap (h : d.Grammatical scale supply) {chosen : Bool}
    (hchosen : chosen = true → ∃ s ∈ d.standardFunctions, Names s StandardFunction.cap)
    {initial : Amount} (hinitial : initial.baseUnits = supply) :
    ∃ cap, d.checkCap chosen scale initial = .ok cap := by
  cases chosen with
  | false => exact ⟨none, checkCap_eq_ok_iff.mpr (.inl ⟨rfl, rfl⟩)⟩
  | true =>
    obtain ⟨s, cap, hs, hcap, hlt⟩ := h.cap (hchosen rfl)
    refine ⟨some ⟨trim s, cap⟩, checkCap_eq_ok_iff.mpr (.inr ⟨rfl, s, ⟨trim s, cap⟩, hs, ?_, ?_, ?_,
      rfl⟩)⟩
    · exact trim_ne_empty_iff.mp hcap.trim_ne
    · exact Amount.parse_eq_ok_iff_quantifies.mpr ⟨h.decimals_le, rfl, hcap⟩
    · rwa [hinitial]

theorem exists_checkAntiWhale (h : d.Grammatical scale supply) {chosen : Bool}
    (hchosen : chosen = true → ∃ s ∈ d.securityFunctions, Names s SecurityFunction.antiWhale) :
    ∃ w, d.checkAntiWhale chosen scale = .ok w := by
  cases chosen with
  | false => exact ⟨none, checkAntiWhale_eq_ok_iff.mpr (.inl ⟨rfl, rfl⟩)⟩
  | true =>
    obtain ⟨holder, transaction, x, y, hholder, hx, htransaction, hy⟩ := h.antiWhale (hchosen rfl)
    refine ⟨some ⟨⟨trim holder, x⟩, ⟨trim transaction, y⟩⟩, checkAntiWhale_eq_ok_iff.mpr (.inr
      ⟨rfl, trim holder, trim transaction, _, ?_, ?_, ?_, ?_, rfl⟩)⟩
    · rw [hholder]
      exact filled_eq_ok_iff.mpr ⟨rfl, hx.trim_ne⟩
    · rw [htransaction]
      exact filled_eq_ok_iff.mpr ⟨rfl, hy.trim_ne⟩
    · rw [Amount.parse_trim]
      exact Amount.parse_eq_ok_iff_quantifies.mpr ⟨h.decimals_le, rfl, hx⟩
    · rw [Amount.parse_trim]
      exact Amount.parse_eq_ok_iff_quantifies.mpr ⟨h.decimals_le, rfl, hy⟩

theorem exists_checkCooldown (h : d.Grammatical scale supply) {chosen : Bool}
    (hchosen : chosen = true → ∃ s ∈ d.securityFunctions, Names s SecurityFunction.antiBot) :
    ∃ cooldown, d.checkCooldown chosen = .ok cooldown := by
  cases chosen with
  | false => exact ⟨none, checkCooldown_eq_ok_iff.mpr (.inl ⟨rfl, rfl⟩)⟩
  | true =>
    cases hs : d.tradingCooldown with
    | none =>
      refine ⟨some 30, checkCooldown_eq_ok_iff.mpr (.inr ⟨rfl, 30, rfl, .inl ⟨?_, rfl⟩⟩)⟩
      rw [hs]
      rfl
    | some s =>
      rcases h.antiBot (hchosen rfl) s hs with hblank | ⟨n, hn, hlt⟩
      · refine ⟨some 30, checkCooldown_eq_ok_iff.mpr (.inr ⟨rfl, 30, rfl, .inl ⟨?_, rfl⟩⟩)⟩
        rwa [hs]
      · refine ⟨some n, checkCooldown_eq_ok_iff.mpr (.inr ⟨rfl, n, rfl, .inr ⟨?_, hlt⟩⟩)⟩
        rwa [hs]

/-- A draft of the grammar passes every check. -/
theorem exists_validate (h : d.Grammatical scale supply) : ∃ c, d.validate = .ok c := by
  obtain ⟨network, hnetwork⟩ := h.network
  obtain ⟨access, haccess⟩ := h.accessControl
  obtain ⟨manager, hmanager⟩ := h.exists_checkAuthority haccess
  obtain ⟨name, hname⟩ := exists_contractIdentifier?_iff.mpr
    (h.letter.imp fun x hx => ⟨(mem_trim_iff (isBlank_of_isAlpha hx.2)).mpr hx.1, hx.2⟩)
  have hnamed {α : Type} [Choice α] [Lawful α] [DecidableEq α] {ss : List String} {a : α}
      (ha : (named ss).contains a = true) : ∃ s ∈ ss, Names s a :=
    mem_named.mp (List.contains_iff_mem.mp ha)
  have hinitial : (Amount.mk (trim d.initialSupply) supply).baseUnits = supply := rfl
  obtain ⟨cap, hcap⟩ := h.exists_checkCap hnamed hinitial
  obtain ⟨limits, hlimits⟩ := h.exists_checkAntiWhale hnamed
  obtain ⟨cooldown, hcooldown⟩ := h.exists_checkCooldown hnamed
  obtain ⟨upgradeability, hupgradeability⟩ : ∃ u : Upgradeability,
      isBlankText d.upgradeability = true ∧ u = .none ∨ Names d.upgradeability u :=
    h.upgradeability.elim (fun hblank => ⟨.none, .inl ⟨hblank, rfl⟩⟩) (Exists.imp fun _ => .inr)
  obtain ⟨presale, hpresale⟩ : ∃ p : PresaleType,
      isBlankText d.presaleType = true ∧ p = .none ∨ Names d.presaleType p :=
    h.presaleType.elim (fun hblank => ⟨.none, .inl ⟨hblank, rfl⟩⟩) (Exists.imp fun _ => .inr)
  refine ⟨{
    network
    tokenName := trim d.tokenName
    tokenSymbol := trim d.tokenSymbol
    contractName := name
    decimals := scale
    initialSupply := ⟨trim d.initialSupply, supply⟩
    maxSupply := cap
    accessControl := access
    accessManager := manager
    standardFunctions := named d.standardFunctions
    securityFunctions := named d.securityFunctions
    taxFunctions := named d.taxFunctions
    upgradeability
    presaleType := presale
    antiWhale := limits
    tradingCooldown := cooldown }, validate_eq_ok_iff.mpr ?_⟩
  exact {
    network := checkNetwork_eq_ok_iff.mpr hnetwork
    tokenName := filled_eq_ok_iff.mpr ⟨rfl, trim_ne_empty_iff.mpr h.tokenName⟩
    tokenSymbol := filled_eq_ok_iff.mpr ⟨rfl, trim_ne_empty_iff.mpr h.tokenSymbol⟩
    contractName := checkContractName_eq_ok_iff.mpr hname
    decimals := checkDecimals_eq_ok_iff.mpr
      (h.decimals.imp_right fun hd => ⟨hd.1, hd.2.trans_lt (by decide)⟩)
    initialSupply := ⟨trim d.initialSupply, filled_eq_ok_iff.mpr ⟨rfl, h.initialSupply.trim_ne⟩, by
      rw [amount_eq_ok_iff, Amount.parse_trim]
      exact Amount.parse_eq_ok_iff_quantifies.mpr ⟨h.decimals_le, rfl, h.initialSupply⟩⟩
    accessControl := choice_eq_ok_iff.mpr haccess
    accessManager := hmanager
    standardFunctions := choices_eq_ok_iff.mpr ⟨h.standardFunctions, rfl⟩
    securityFunctions := choices_eq_ok_iff.mpr ⟨h.securityFunctions, rfl⟩
    taxFunctions := choices_eq_ok_iff.mpr ⟨h.taxFunctions, rfl⟩
    upgradeability := choiceOr_eq_ok_iff.mpr hupgradeability
    presaleType := choiceOr_eq_ok_iff.mpr hpresale
    maxSupply := hcap
    antiWhale := hlimits
    tradingCooldown := hcooldown }

end Grammatical

/-! ## The configuration of a draft -/

/-- A configuration has what the texts of a draft stand for, and the parts that a feature asks for
exactly where that feature is chosen. -/
structure Represents (d : Draft) (c : TokenConfig) : Prop where
  network : lower (trim d.network) = c.network.slug
  tokenName : c.tokenName = trim d.tokenName
  tokenSymbol : c.tokenSymbol = trim d.tokenSymbol
  contractName : c.contractName.toList = reduced c.tokenName
  isContractName : IsContractName c.contractName
  decimals_le : c.decimals ≤ 77
  initialSupply : c.initialSupply.entered = trim d.initialSupply
  accessControl : Names d.accessControl c.accessControl
  standardFunctions : c.standardFunctions = named d.standardFunctions
  securityFunctions : c.securityFunctions = named d.securityFunctions
  taxFunctions : c.taxFunctions = named d.taxFunctions
  upgradeability : isBlankText d.upgradeability = true ∧ c.upgradeability = .none ∨
    Names d.upgradeability c.upgradeability
  presaleType : isBlankText d.presaleType = true ∧ c.presaleType = .none ∨
    Names d.presaleType c.presaleType
  isSome_accessManager : c.accessManager.isSome = true ↔ c.accessControl = .manager
  accessManager : ∀ a, c.accessManager = some a →
    a ≠ 0 ∧ ∃ s, d.accessManager = some s ∧ Address.Written (trim s) a
  isSome_maxSupply : c.maxSupply.isSome = true ↔ .cap ∈ c.standardFunctions
  maxSupply : ∀ cap, c.maxSupply = some cap →
    c.initialSupply.baseUnits < cap.baseUnits ∧
      ∃ s, d.maxSupply = some s ∧ cap.entered = trim s ∧ Quantifies s c.decimals cap.baseUnits
  isSome_antiWhale : c.antiWhale.isSome = true ↔ .antiWhale ∈ c.securityFunctions
  antiWhale : ∀ w, c.antiWhale = some w → ∃ holder transaction,
    d.maxHolderLimit = some holder ∧ w.maxHolderLimit.entered = trim holder ∧
    Quantifies holder c.decimals w.maxHolderLimit.baseUnits ∧
    d.maxTransactionAmount = some transaction ∧
    w.maxTransactionAmount.entered = trim transaction ∧
    Quantifies transaction c.decimals w.maxTransactionAmount.baseUnits
  isSome_tradingCooldown : c.tradingCooldown.isSome = true ↔ .antiBot ∈ c.securityFunctions
  tradingCooldown : ∀ n, c.tradingCooldown = some n →
    (d.tradingCooldown = none → n = 30) ∧ ∀ s, d.tradingCooldown = some s →
      isBlankText s = true ∧ n = 30 ∨ DenotesInteger (trim s).toList n ∧ n < 2 ^ 64

namespace Accepted

variable {d : Draft} {c : TokenConfig}

/-- A text that is not blank was entered. -/
theorem exists_of_getD {s : Option String} (h : trim (s.getD "") ≠ "") : ∃ t, s = some t := by
  cases s with
  | none => exact absurd rfl h
  | some t => exact ⟨t, rfl⟩

/-- The configuration of an accepted draft represents it. -/
theorem represents (h : d.Accepted c) : d.Represents c where
  network := checkNetwork_eq_ok_iff.mp h.network
  tokenName := h.tokenName_eq
  tokenSymbol := h.tokenSymbol_eq
  contractName := by
    have hne : c.contractName ≠ "" := by
      obtain ⟨x, xs, hname, -⟩ := h.isContractName
      rintro hempty
      rw [hempty] at hname
      cases hname
    have hidentifier := checkContractName_eq_ok_iff.mp h.contractName
    exact ((contractIdentifier?_eq_some_iff hne).mp hidentifier).symm
  isContractName := h.isContractName
  decimals_le := h.decimals_le
  initialSupply := (Amount.parse_eq_ok_iff_quantifies.mp h.initialSupply_parse).2.1
  accessControl := choice_eq_ok_iff.mp h.accessControl
  standardFunctions := (choices_eq_ok_iff.mp h.standardFunctions).2
  securityFunctions := (choices_eq_ok_iff.mp h.securityFunctions).2
  taxFunctions := (choices_eq_ok_iff.mp h.taxFunctions).2
  upgradeability := choiceOr_eq_ok_iff.mp h.upgradeability
  presaleType := choiceOr_eq_ok_iff.mp h.presaleType
  isSome_accessManager := by
    rcases h.authority with ⟨hno, hnone⟩ | ⟨hyes, a, hsome, -⟩
    · simp [hno, hnone]
    · simp [hyes, hsome]
  accessManager := by
    intro a ha
    rcases h.authority with ⟨-, hnone⟩ | ⟨-, x, hsome, hne, hparse⟩
    · rw [hnone] at ha
      cases ha
    · obtain rfl := Option.some.inj (hsome.symm.trans ha)
      have hwritten := Address.parse_eq_ok_iff.mp hparse
      obtain ⟨s, hs⟩ := exists_of_getD hwritten.ne_empty
      rw [hs] at hwritten
      exact ⟨hne, s, hs, hwritten⟩
  isSome_maxSupply := by
    rw [h.isSome_maxSupply]
    exact List.contains_iff_mem
  maxSupply := by
    intro cap hcap
    rcases h.cap with ⟨-, hnone⟩ | ⟨-, s, a, hs, hsome, hparse, hlt⟩
    · rw [hnone] at hcap
      cases hcap
    · obtain rfl := Option.some.inj (hsome.symm.trans hcap)
      obtain ⟨-, hentered, hunits⟩ := Amount.parse_eq_ok_iff_quantifies.mp hparse
      exact ⟨hlt, s, hs, hentered, hunits⟩
  isSome_antiWhale := by
    rw [h.isSome_antiWhale]
    exact List.contains_iff_mem
  antiWhale := by
    intro w hw
    rcases h.limits with ⟨-, hnone⟩ | ⟨-, w', hsome, hholder, htransaction⟩
    · rw [hnone] at hw
      cases hw
    · obtain rfl := Option.some.inj (hsome.symm.trans hw)
      obtain ⟨-, hentered, hunits⟩ := Amount.parse_eq_ok_iff_quantifies.mp hholder
      obtain ⟨-, hentered', hunits'⟩ := Amount.parse_eq_ok_iff_quantifies.mp htransaction
      obtain ⟨holder, hs⟩ := exists_of_getD hunits.trim_ne
      obtain ⟨transaction, hs'⟩ := exists_of_getD hunits'.trim_ne
      rw [hs] at hentered hunits
      rw [hs'] at hentered' hunits'
      exact ⟨holder, transaction, hs, hentered, hunits, hs', hentered', hunits'⟩
  isSome_tradingCooldown := by
    rw [h.isSome_tradingCooldown]
    exact List.contains_iff_mem
  tradingCooldown := by
    intro n hn
    rcases checkCooldown_eq_ok_iff.mp h.tradingCooldown with ⟨-, hnone⟩ | ⟨-, m, hsome, hm⟩
    · rw [hnone] at hn
      cases hn
    · obtain rfl := Option.some.inj (hsome.symm.trans hn)
      constructor
      · intro hs
        rw [hs] at hm
        rcases hm with ⟨-, heq⟩ | ⟨hdigits, -⟩
        · exact heq
        · exact absurd rfl hdigits.ne_nil
      · intro s hs
        rwa [hs] at hm

/-- An accepted draft is one of the grammar, with the decimals and the supply that it is given. -/
theorem grammatical (h : d.Accepted c) : d.Grammatical c.decimals c.initialSupply.baseUnits := by
  have hc := h.represents
  have hmem {α : Type} [Choice α] [Lawful α] {chosen : List α} {ss : List String} {a : α}
      (hchosen : chosen = named ss) (ha : ∃ s ∈ ss, Names s a) : a ∈ chosen := by
    rw [hchosen]
    exact mem_named.mpr ha
  exact {
    network := ⟨c.network, hc.network⟩
    tokenName := isBlankText_of_filled h.tokenName
    letter := by
      have hidentifier := checkContractName_eq_ok_iff.mp h.contractName
      obtain ⟨x, hx, halpha⟩ := exists_contractIdentifier?_iff.mp ⟨_, hidentifier⟩
      rw [h.tokenName_eq, mem_trim_iff (isBlank_of_isAlpha halpha)] at hx
      exact ⟨x, hx, halpha⟩
    tokenSymbol := isBlankText_of_filled h.tokenSymbol
    decimals := (checkDecimals_eq_ok_iff.mp h.decimals).imp_right fun hd => ⟨hd.1, hc.decimals_le⟩
    initialSupply := (Amount.parse_eq_ok_iff_quantifies.mp h.initialSupply_parse).2.2
    accessControl := ⟨c.accessControl, hc.accessControl⟩
    accessManager := by
      intro hnames
      obtain ⟨a, ha⟩ := Option.isSome_iff_exists.mp
        (hc.isSome_accessManager.mpr (hc.accessControl.eq hnames))
      obtain ⟨hne, s, hs, hwritten⟩ := hc.accessManager a ha
      exact ⟨s, a, hs, hwritten, hne⟩
    standardFunctions := (choices_eq_ok_iff.mp h.standardFunctions).1
    securityFunctions := (choices_eq_ok_iff.mp h.securityFunctions).1
    taxFunctions := (choices_eq_ok_iff.mp h.taxFunctions).1
    upgradeability := hc.upgradeability.imp (fun hu => hu.1) fun hu => ⟨_, hu⟩
    presaleType := hc.presaleType.imp (fun hp => hp.1) fun hp => ⟨_, hp⟩
    cap := by
      intro hnames
      obtain ⟨cap, hcap⟩ := Option.isSome_iff_exists.mp
        (hc.isSome_maxSupply.mpr (hmem hc.standardFunctions hnames))
      obtain ⟨hlt, s, hs, -, hunits⟩ := hc.maxSupply cap hcap
      exact ⟨s, cap.baseUnits, hs, hunits, hlt⟩
    antiWhale := by
      intro hnames
      obtain ⟨w, hw⟩ := Option.isSome_iff_exists.mp
        (hc.isSome_antiWhale.mpr (hmem hc.securityFunctions hnames))
      obtain ⟨holder, transaction, hs, -, hunits, hs', -, hunits'⟩ := hc.antiWhale w hw
      exact ⟨holder, transaction, _, _, hs, hunits, hs', hunits'⟩
    antiBot := by
      intro hnames s hs
      obtain ⟨n, hn⟩ := Option.isSome_iff_exists.mp
        (hc.isSome_tradingCooldown.mpr (hmem hc.securityFunctions hnames))
      exact ((hc.tradingCooldown n hn).2 s hs).imp (fun hb => hb.1) fun hd => ⟨n, hd⟩ }

end Accepted

/-- Validation accepts exactly the drafts of the grammar, and what it gives represents the draft. -/
theorem validate_grammar (d : Draft) :
    ((∃ c, d.validate = .ok c) ↔ ∃ scale supply, d.Grammatical scale supply) ∧
      ∀ c, d.validate = .ok c →
        d.Grammatical c.decimals c.initialSupply.baseUnits ∧ d.Represents c := by
  have hsound (c : TokenConfig) (h : d.validate = .ok c) :
      d.Grammatical c.decimals c.initialSupply.baseUnits ∧ d.Represents c :=
    ⟨(validate_eq_ok_iff.mp h).grammatical, (validate_eq_ok_iff.mp h).represents⟩
  refine ⟨⟨?_, ?_⟩, hsound⟩
  · rintro ⟨c, hc⟩
    exact ⟨_, _, (hsound c hc).1⟩
  · rintro ⟨scale, supply, h⟩
    exact h.exists_validate

/-- A draft with every part that a feature asks for, its texts among blanks. -/
def spacedDraft : Draft where
  network := " sepolia"
  tokenName := "9 Lead 2 "
  tokenSymbol := "LD "
  decimals := "+06"
  initialSupply := " 1.5"
  maxSupply := some "2 "
  accessControl := " manager"
  accessManager := some " 0X00000000000000000000000000000000000000Af"
  standardFunctions := ["cap", " mint", "cap "]
  securityFunctions := ["antibot", "antiwhale "]
  taxFunctions := ["dividends"]
  upgradeability := " "
  presaleType := "ico"
  maxHolderLimit := some "0.25"
  maxTransactionAmount := some "007"
  tradingCooldown := some " "

theorem validate_grammar_spacedDraft :
    (∃ scale supply, spacedDraft.Grammatical scale supply) ∧
      ∃ c, spacedDraft.validate = .ok c ∧ spacedDraft.Represents c ∧ c.decimals = 6 ∧
        c.contractName = "LEAD2" ∧ c.initialSupply.baseUnits = 1500000 ∧
        c.accessManager = some 0xAF ∧ c.standardFunctions = [.mint, .cap] ∧
        c.tradingCooldown = some 30 := by
  have hchosen : spacedDraft.validate.toOption.any (fun c =>
      decide (c.decimals = 6 ∧ c.contractName = "LEAD2" ∧ c.initialSupply.baseUnits = 1500000 ∧
        c.accessManager = some 0xAF ∧ c.standardFunctions = [.mint, .cap] ∧
        c.tradingCooldown = some 30)) = true := by
    decide +kernel
  obtain ⟨c, hc, hp⟩ := exists_of_validate hchosen
  have hgrammar := validate_grammar spacedDraft
  exact ⟨hgrammar.1.mp ⟨c, hc⟩, c, hc, (hgrammar.2 c hc).2, of_decide_eq_true hp⟩

end Draft

end TokenLaunch
