import TokenLaunch.Proofs.Scale
import TokenLaunch.Proofs.Source.Bases
import TokenLaunch.Proofs.Source.Functions

/-!
# What a source identifies

The source of an accepted draft depends on some aspects of its configuration and on nothing else,
and each of them can be read off the text again.
-/

namespace TokenLaunch

open Text Solidity

/-- The limits on single holders and single transfers in base units. -/
def AntiWhale.units (w : AntiWhale) : Nat × Nat :=
  (w.maxHolderLimit.baseUnits, w.maxTransactionAmount.baseUnits)

/-- Two configurations that agree on what a source shows: the name of the contract, decimals, access
control, burns and pauses, the cap with the largest supply, the security functions with the limits
and the cooldown, and mints where access control lets somebody mint. -/
@[mk_iff]
structure SameToken (c₁ c₂ : TokenConfig) : Prop where
  contractName : c₁.contractName = c₂.contractName
  decimals : c₁.decimals = c₂.decimals
  accessControl : c₁.accessControl = c₂.accessControl
  burn : c₁.has .burn = c₂.has .burn
  pause : c₁.has .pause = c₂.has .pause
  cap : c₁.has .cap = c₂.has .cap
  maxSupply : c₁.maxSupply.map (·.baseUnits) = c₂.maxSupply.map (·.baseUnits)
  security : ∀ f, c₁.hasSecurity f = c₂.hasSecurity f
  limits : c₁.antiWhale.map AntiWhale.units = c₂.antiWhale.map AntiWhale.units
  cooldown : c₁.tradingCooldown = c₂.tradingCooldown
  mint : c₁.accessControl ≠ .none → c₁.has .mint = c₂.has .mint

instance (p : SecurityFunction → Prop) [DecidablePred p] : Decidable (∀ f, p f) :=
  decidable_of_iff (p .antiWhale ∧ p .antiBot ∧ p .blacklist ∧ p .allowlist)
    ⟨fun ⟨hwhale, hbot, hblacklist, hallowlist⟩ f => by cases f <;> assumption,
      fun h => ⟨h _, h _, h _, h _⟩⟩

instance (c₁ c₂ : TokenConfig) : Decidable (SameToken c₁ c₂) :=
  decidable_of_iff' _ (sameToken_iff c₁ c₂)

variable {c c₁ c₂ : TokenConfig} {d₁ d₂ : Draft}

/-! ## From what is shown to the source -/

open Synthesis

theorem TokenConfig.isGuarded_iff : c.isGuarded = true ↔ ∃ f, c.hasSecurity f = true := by
  simp [TokenConfig.isGuarded, TokenConfig.hasSecurity, List.eq_nil_iff_forall_not_mem]

namespace SameToken

variable (h : SameToken c₁ c₂)

include h

theorem isGuarded : c₁.isGuarded = c₂.isGuarded := by
  rw [Bool.eq_iff_iff, TokenConfig.isGuarded_iff, TokenConfig.isGuarded_iff]
  simp only [h.security]

theorem isSome_maxSupply : c₁.maxSupply.isSome = c₂.maxSupply.isSome := by
  simpa using congrArg Option.isSome h.maxSupply

theorem isSome_antiWhale : c₁.antiWhale.isSome = c₂.antiWhale.isSome := by
  simpa using congrArg Option.isSome h.limits

theorem bases : bases c₁ = bases c₂ := by
  simp only [Synthesis.bases, h.accessControl, h.burn, h.pause, h.isSome_maxSupply]

theorem roles : roles c₁ = roles c₂ := by
  by_cases hroles : c₁.accessControl = .roles
  · have hmint := h.mint (by rw [hroles]; nofun)
    simp only [Synthesis.roles, ← h.accessControl, if_pos hroles, hmint, h.pause]
  · simp only [Synthesis.roles, ← h.accessControl, if_neg hroles]

theorem initializers : initializers c₁ = initializers c₂ := by
  have hcalls : ∀ c : TokenConfig, (c.maxSupply.toList.map fun cap =>
      (⟨Base.capped.name, [.number cap.baseUnits]⟩ : Initializer)) =
        (c.maxSupply.map (·.baseUnits)).toList.map fun n => ⟨Base.capped.name, [.number n]⟩ := by
    intro c
    cases c.maxSupply <;> rfl
  simp only [Synthesis.initializers, h.accessControl, hcalls, h.maxSupply]

theorem state : state c₁ = state c₂ := by
  have hlimits : ∀ c : TokenConfig, c.antiWhale.toList.map antiWhaleState =
      (c.antiWhale.map AntiWhale.units).toList.map fun w =>
        antiWhaleState ⟨⟨"", w.1⟩, ⟨"", w.2⟩⟩ := by
    intro c
    cases c.antiWhale <;> rfl
  simp only [Synthesis.state, h.roles, hlimits, h.limits, h.cooldown, h.security]

theorem mintFunctions : mintFunctions c₁ = mintFunctions c₂ := by
  by_cases hnone : c₁.accessControl = .none
  · simp [Synthesis.mintFunctions, ← h.accessControl, hnone, Synthesis.guard]
  · simp only [Synthesis.mintFunctions, h.mint hnone, h.accessControl]

theorem functions : functions c₁ = functions c₂ := by
  have hpausing : pausing c₁ = pausing c₂ := by
    simp only [pausing, h.pause, h.accessControl]
  have hsecurity : securityFunctions c₁ = securityFunctions c₂ := by
    simp only [securityFunctions, h.accessControl, h.isSome_antiWhale, h.cooldown, h.security]
  have hbody : hookBody c₁ = hookBody c₂ := by
    simp only [hookBody, betweenHolders, h.isGuarded, h.pause, h.security, h.isSome_antiWhale,
      h.cooldown]
  have hhook : hook c₁ = hook c₂ := by
    simp only [hook, h.isGuarded, h.pause, h.cap, hbody]
  simp only [Synthesis.functions, decimalsFunction, h.decimals, h.mintFunctions, hpausing,
    hsecurity, hhook]

theorem contract : c₁.contract = c₂.contract := by
  simp only [TokenConfig.contract, imports, params, statements, h.contractName, h.bases,
    h.isGuarded, h.accessControl, h.initializers, h.roles, h.security, h.state, h.functions]

/-- Configurations that agree have one source. -/
theorem source : c₁.source = c₂.source := by
  rw [TokenConfig.source, TokenConfig.source, TokenConfig.sourceUnit, TokenConfig.sourceUnit,
    h.contract]

end SameToken

/-! ## From the source to what it shows -/

namespace Synthesis

theorem mem_bases_iff {b : Base} : b ∈ bases c ↔ b = .erc20 ∨ accessBase c.accessControl = some b ∨
    c.has .burn ∧ b = .burnable ∨ c.has .pause ∧ b = .pausable ∨
      c.maxSupply.isSome ∧ b = .capped := by
  simp [bases]

theorem accessBase_ne (access : AccessControl) :
    ∀ b ∈ [Base.erc20, .burnable, .pausable, .capped], accessBase access ≠ some b := by
  cases access <;> decide

/-- The base for access control is the one that nothing else adds. -/
theorem accessBase_eq_some_iff {b : Base} : accessBase c.accessControl = some b ↔
    b ∈ bases c ∧ b ∉ [Base.erc20, .burnable, .pausable, .capped] := by
  have hne := accessBase_ne c.accessControl b
  rw [mem_bases_iff]
  simp only [List.mem_cons, List.not_mem_nil, or_false] at hne ⊢
  tauto

theorem accessBase_injective : Function.Injective accessBase := by
  intro access access'
  cases access <;> cases access' <;> decide

theorem accessControl_eq_of_bases (h : bases c₁ = bases c₂) :
    c₁.accessControl = c₂.accessControl :=
  accessBase_injective <| Option.ext fun b => by
    rw [accessBase_eq_some_iff, accessBase_eq_some_iff, h]

theorem has_burn_iff : c.has .burn = true ↔ .burnable ∈ bases c := by
  simp [mem_bases_iff, accessBase_ne]

theorem has_pause_iff : c.has .pause = true ↔ .pausable ∈ bases c := by
  simp [mem_bases_iff, accessBase_ne]

theorem Base.name_injective : Function.Injective Base.name := by
  intro b b'
  cases b <;> cases b' <;> decide

theorem decimal_injective : Function.Injective decimal := by
  intro m n h
  rw [← number_decimal m, h, number_decimal]

theorem toList_map_decimal_injective {x y : Option Nat}
    (h : x.toList.map decimal = y.toList.map decimal) : x = y := by
  have hlist := List.map_injective_iff.mpr decimal_injective h
  cases x <;> cases y <;> simp_all

/-! ## Numbers -/

/-- The largest supply is the argument of the base with a cap. -/
theorem baseArguments_capped (h : IsContractName c.contractName) :
    baseArguments "ERC20Capped" c.source =
      (c.maxSupply.map (·.baseUnits)).toList.map decimal := by
  rw [baseArguments_source h]
  cases c.maxSupply <;> rfl

/-- The limits and the cooldown are the first values of their variables. -/
theorem firstValues_transaction (h : IsContractName c.contractName) :
    firstValues "maxTransactionAmount" c.source =
      ((c.antiWhale.map AntiWhale.units).map Prod.snd).toList.map decimal := by
  rw [firstValues_source h (by decide), words]
  generalize c.antiWhale = w
  generalize c.tradingCooldown = cooldown
  cases w <;> cases cooldown <;> rfl

theorem firstValues_holder (h : IsContractName c.contractName) :
    firstValues "maxHolderLimit" c.source =
      ((c.antiWhale.map AntiWhale.units).map Prod.fst).toList.map decimal := by
  rw [firstValues_source h (by decide), words]
  generalize c.antiWhale = w
  generalize c.tradingCooldown = cooldown
  cases w <;> cases cooldown <;> rfl

theorem firstValues_cooldown (h : IsContractName c.contractName) :
    firstValues "tradingCooldown" c.source = c.tradingCooldown.toList.map decimal := by
  rw [firstValues_source h (by decide), words]
  generalize c.antiWhale = w
  generalize c.tradingCooldown = cooldown
  cases w <;> cases cooldown <;> rfl

/-! ## Functions -/

theorem option_prod_ext {α β : Type} {x y : Option (α × β)} (hfst : x.map Prod.fst = y.map Prod.fst)
    (hsnd : x.map Prod.snd = y.map Prod.snd) : x = y := by
  cases x <;> cases y <;> simp_all [Prod.ext_iff]

/-- Mints show only where access control lets somebody mint. -/
theorem mint_mem_names : "mint" ∈ (functions c).map Function.name ↔
    c.has .mint = true ∧ c.accessControl ≠ .none := by
  simp [names_functions, names_securityFunctions]

theorem isBlacklisted_mem_names : "isBlacklisted" ∈ (functions c).map Function.name ↔
    c.hasSecurity .blacklist = true := by
  simp [names_functions, names_securityFunctions]

theorem isAllowlisted_mem_names : "isAllowlisted" ∈ (functions c).map Function.name ↔
    c.hasSecurity .allowlist = true := by
  simp [names_functions, names_securityFunctions]

end Synthesis

/-- What a source shows can be read off it. -/
theorem Draft.Accepted.sameToken_of_source_eq (h₁ : d₁.Accepted c₁) (h₂ : d₂.Accepted c₂)
    (h : c₁.source = c₂.source) : SameToken c₁ c₂ := by
  -- whatever is read off one text is the same for both configurations
  have hread {α : Type} {r : String → α} {shown : TokenConfig → α}
      (hr : ∀ {c : TokenConfig}, IsContractName c.contractName → r c.source = shown c) :
      shown c₁ = shown c₂ := by
    rw [← hr h₁.isContractName, ← hr h₂.isContractName, h]
  have hname := hread contractNames_source
  have hdecimals := hread reportedDecimals?_source
  have hbases := List.map_injective_iff.mpr Base.name_injective (hread baseNames_source)
  have haccess := accessControl_eq_of_bases hbases
  have hcap := toList_map_decimal_injective (hread baseArguments_capped)
  have htransaction := toList_map_decimal_injective (hread firstValues_transaction)
  have hholder := toList_map_decimal_injective (hread firstValues_holder)
  have hcooldown := toList_map_decimal_injective (hread firstValues_cooldown)
  have hnames := hread functionNames_source
  have hlimits : c₁.antiWhale.map AntiWhale.units = c₂.antiWhale.map AntiWhale.units :=
    option_prod_ext hholder htransaction
  refine
    { contractName := List.singleton_injective hname
      decimals := Option.some_injective _ hdecimals
      accessControl := haccess
      burn := by rw [Bool.eq_iff_iff, has_burn_iff, has_burn_iff, hbases]
      pause := by rw [Bool.eq_iff_iff, has_pause_iff, has_pause_iff, hbases]
      cap := ?_
      maxSupply := hcap
      security := fun f => ?_
      limits := hlimits
      cooldown := hcooldown
      mint := fun hnone => ?_ }
  · have hsome := congrArg Option.isSome hcap
    rwa [Option.isSome_map, Option.isSome_map, h₁.isSome_maxSupply, h₂.isSome_maxSupply] at hsome
  · cases f with
    | antiWhale =>
      have hsome := congrArg Option.isSome hlimits
      rwa [Option.isSome_map, Option.isSome_map, h₁.isSome_antiWhale, h₂.isSome_antiWhale] at hsome
    | antiBot =>
      have hsome := congrArg Option.isSome hcooldown
      rwa [h₁.isSome_tradingCooldown, h₂.isSome_tradingCooldown] at hsome
    | blacklist =>
      rw [Bool.eq_iff_iff, ← isBlacklisted_mem_names, ← isBlacklisted_mem_names, hnames]
    | allowlist =>
      rw [Bool.eq_iff_iff, ← isAllowlisted_mem_names, ← isAllowlisted_mem_names, hnames]
  · have hmint : (c₁.has .mint = true ∧ c₁.accessControl ≠ .none) ↔
        (c₂.has .mint = true ∧ c₂.accessControl ≠ .none) := by
      rw [← mint_mem_names, ← mint_mem_names, hnames]
    rw [← haccess, and_iff_left hnone, and_iff_left hnone] at hmint
    rwa [Bool.eq_iff_iff]

/-- Two accepted drafts have the same source exactly where they agree on what it shows. -/
theorem source_eq_iff_sameToken (h₁ : d₁.validate = .ok c₁) (h₂ : d₂.validate = .ok c₂) :
    c₁.source = c₂.source ↔ SameToken c₁ c₂ :=
  ⟨(Draft.validate_eq_ok_iff.mp h₁).sameToken_of_source_eq (Draft.validate_eq_ok_iff.mp h₂),
    SameToken.source⟩

/-- A draft that agrees with another and has hardly a field in common with it. -/
def respelledDraft : Draft :=
  { cappedDraft with
    network := "ethereum"
    tokenName := " 7t-I-n!"
    tokenSymbol := "ZN"
    initialSupply := "0.05"
    maxSupply := some "20.00"
    taxFunctions := ["treasuryFee"]
    upgradeability := "uups"
    presaleType := "ico"
    maxHolderLimit := some "3"
    maxTransactionAmount := some "1.001" }

theorem source_eq_respelledDraft : ∃ c₁ c₂, cappedDraft.validate = .ok c₁ ∧
    respelledDraft.validate = .ok c₂ ∧ c₁ ≠ c₂ ∧ c₁.source = c₂.source := by
  have hchosen : cappedDraft.validate.toOption.any (fun c₁ =>
      respelledDraft.validate.toOption.any fun c₂ => c₁ ≠ c₂ ∧ SameToken c₁ c₂) = true := by
    decide +kernel
  obtain ⟨c₁, h₁, hchosen⟩ := Draft.exists_of_validate hchosen
  obtain ⟨c₂, h₂, hchosen⟩ := Draft.exists_of_validate hchosen
  obtain ⟨hne, hsame⟩ := of_decide_eq_true hchosen
  exact ⟨c₁, c₂, h₁, h₂, hne, (source_eq_iff_sameToken h₁ h₂).mpr hsame⟩

end TokenLaunch
