import TokenLaunch.ConstructorArgs
import TokenLaunch.Proofs.Source.Decimals
import TokenLaunch.Proofs.Validation

/-!
# One scale

The decimals that a generated source reports are the scale of every quantity in it and of every
quantity that its constructor is called with.
-/

namespace TokenLaunch

open Text

/-- So many base units are the whole base units in an entered quantity. -/
def Scaled (entered : String) (decimals baseUnits : Nat) : Prop :=
  ∃ r : ℚ, Denotes (trim entered).toList r ∧ baseUnits = ⌊r * 10 ^ decimals⌋₊

theorem Amount.scaled {s : String} {decimals : Nat} {a : Amount}
    (h : Amount.parse s decimals = .ok a) :
    Scaled s decimals a.baseUnits ∧ a.baseUnits < wordBound := by
  obtain ⟨-, r, hr, hlt, rfl⟩ := (Amount.parse_eq_ok_iff _ _ _).mp h
  exact ⟨⟨r, hr, rfl⟩, hlt⟩

/-- Nothing is no quantity. -/
theorem Amount.parse_getD {s : Option String} {decimals : Nat} {a : Amount}
    (h : Amount.parse (s.getD "") decimals = .ok a) : ∃ t, s = some t := by
  cases s with
  | some t => exact ⟨t, rfl⟩
  | none =>
    have hfault : Amount.parse "" decimals = .error .notDecimal := rfl
    rw [Option.getD_none, hfault] at h
    cases h

/-- The source of a configuration and the values for its constructor hold the quantities of a
draft in base units of the decimals that the source reports. -/
structure OneScale (d : Draft) (c : TokenConfig) (decimals supply : Nat) : Prop where
  reported : reportedDecimals? c.source = some decimals
  decimals_value : (ConstructorArgs.ofConfig c).values[3]? = some (.uint decimals 8)
  decimals_lt : decimals < 2 ^ 8
  supply_scaled : Scaled d.initialSupply decimals supply
  supply_value : (ConstructorArgs.ofConfig c).values[2]? = some (.uint supply 256)
  /-- A cap is called once, and with more than is minted. -/
  cap : c.has .cap = true → ∃ entered cap, d.maxSupply = some entered ∧
    Scaled entered decimals cap ∧ baseArguments "ERC20Capped" c.source = [decimal cap] ∧
    supply < cap ∧ cap < 2 ^ 256
  /-- Each limit is the first value of its own variable. -/
  limits : c.hasSecurity .antiWhale = true → ∃ holder transaction holderLimit transactionLimit,
    d.maxHolderLimit = some holder ∧ d.maxTransactionAmount = some transaction ∧
    Scaled holder decimals holderLimit ∧ Scaled transaction decimals transactionLimit ∧
    firstValues "maxHolderLimit" c.source = [decimal holderLimit] ∧
    firstValues "maxTransactionAmount" c.source = [decimal transactionLimit]

theorem Draft.Accepted.isContractName {d : Draft} {c : TokenConfig} (h : d.Accepted c) :
    IsContractName c.contractName :=
  isContractName_of_contractIdentifier? (Draft.checkContractName_eq_ok_iff.mp h.contractName)

/-- An accepted draft has one scale. -/
theorem oneScale_of_validate {d : Draft} {c : TokenConfig} (h : d.validate = .ok c) :
    ∃ decimals supply, OneScale d c decimals supply := by
  have hd := Draft.validate_eq_ok_iff.mp h
  have hname := hd.isContractName
  obtain ⟨hsupply, -⟩ := Amount.scaled hd.initialSupply_parse
  refine ⟨c.decimals, c.initialSupply.baseUnits, ?_⟩
  refine
    { reported := Synthesis.reportedDecimals?_source hname
      decimals_value := rfl
      decimals_lt := lt_of_le_of_lt hd.decimals_le (by decide)
      supply_scaled := hsupply
      supply_value := rfl
      cap := fun hcap => ?_
      limits := fun hlimits => ?_ }
  · rcases hd.cap with ⟨hno, -⟩ | ⟨-, entered, cap, hentered, hsome, hparse, hlt⟩
    · rw [hno] at hcap
      cases hcap
    · obtain ⟨hscaled, hword⟩ := Amount.scaled hparse
      refine ⟨entered, cap.baseUnits, hentered, hscaled, ?_, hlt, hword⟩
      rw [Synthesis.baseArguments_source hname, hsome]
      rfl
  · rcases hd.limits with ⟨hno, -⟩ | ⟨-, w, hsome, hholder, htransaction⟩
    · rw [hno] at hlimits
      cases hlimits
    · obtain ⟨holder, hh⟩ := Amount.parse_getD hholder
      obtain ⟨transaction, ht⟩ := Amount.parse_getD htransaction
      rw [hh, Option.getD_some] at hholder
      rw [ht, Option.getD_some] at htransaction
      refine ⟨holder, transaction, w.maxHolderLimit.baseUnits, w.maxTransactionAmount.baseUnits, hh,
        ht, (Amount.scaled hholder).1, (Amount.scaled htransaction).1, ?_, ?_⟩
      · rw [Synthesis.firstValues_source hname (by decide), Synthesis.words, hsome]
        cases c.tradingCooldown <;> rfl
      · rw [Synthesis.firstValues_source hname (by decide), Synthesis.words, hsome]
        cases c.tradingCooldown <;> rfl

/-- A draft with a cap and limits, at two decimals. -/
def cappedDraft : Draft where
  network := "sepolia"
  tokenName := "Tin"
  tokenSymbol := "TIN"
  decimals := "2"
  initialSupply := "10.5"
  maxSupply := some "20"
  accessControl := "ownable"
  accessManager := none
  standardFunctions := ["cap"]
  securityFunctions := ["antiwhale"]
  taxFunctions := []
  upgradeability := "none"
  presaleType := "none"
  maxHolderLimit := some "3.009"
  maxTransactionAmount := some "1"
  tradingCooldown := none

theorem oneScale_cappedDraft : ∃ c, cappedDraft.validate = .ok c ∧ c.has .cap = true ∧
    c.hasSecurity .antiWhale = true ∧
    ∃ decimals supply, OneScale cappedDraft c decimals supply := by
  have hchosen : (match cappedDraft.validate with
      | .ok c => c.has .cap && c.hasSecurity .antiWhale
      | .error _ => false) = true := by
    decide +kernel
  cases h : cappedDraft.validate with
  | error e =>
    rw [h] at hchosen
    cases hchosen
  | ok c =>
    rw [h] at hchosen
    obtain ⟨hcap, hlimits⟩ := Bool.and_eq_true_iff.mp hchosen
    exact ⟨c, rfl, hcap, hlimits, oneScale_of_validate h⟩

end TokenLaunch
