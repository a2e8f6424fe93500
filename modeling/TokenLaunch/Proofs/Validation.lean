import Mathlib.Tactic.Common
import TokenLaunch.Proofs.Quantity
import TokenLaunch.TokenConfig

/-!
# Accepted drafts

What validation has found of a draft when it gives a configuration.  A draft is accepted exactly
when every check succeeds with the part of the configuration that it is for; the sections below say
what each check has seen.
-/

namespace TokenLaunch

/-- A step of a sequence succeeds if it does and the rest does with its result. -/
theorem bind_eq_ok_iff {ε α β : Type} {x : Except ε α} {f : α → Except ε β} {b : β} :
    (x >>= f) = .ok b ↔ ∃ a, x = .ok a ∧ f a = .ok b := by
  cases x <;> simp [bind, Except.bind]

theorem mapError_eq_ok_iff {ε ε' α : Type} {f : ε → ε'} {x : Except ε α} {a : α} :
    x.mapError f = .ok a ↔ x = .ok a := by
  cases x <;> simp [Except.mapError]

theorem toOption_eq_some_iff {ε α : Type} {x : Except ε α} {a : α} :
    x.toOption = some a ↔ x = .ok a := by
  cases x <;> simp [Except.toOption]

namespace Draft

/-- Every check of a draft succeeds, and with the parts of this configuration. -/
structure Accepted (d : Draft) (c : TokenConfig) : Prop where
  network : d.checkNetwork = .ok c.network
  tokenName : filled .tokenName d.tokenName = .ok c.tokenName
  tokenSymbol : filled .tokenSymbol d.tokenSymbol = .ok c.tokenSymbol
  contractName : checkContractName c.tokenName = .ok c.contractName
  decimals : d.checkDecimals = .ok c.decimals
  initialSupply : ∃ s, filled .initialSupply d.initialSupply = .ok s ∧
    amount .initialSupply s c.decimals = .ok c.initialSupply
  accessControl : choice .accessControl d.accessControl = .ok c.accessControl
  accessManager : d.checkAuthority c.accessControl = .ok c.accessManager
  standardFunctions : choices .standardFunctions d.standardFunctions = .ok c.standardFunctions
  securityFunctions : choices .securityFunctions d.securityFunctions = .ok c.securityFunctions
  taxFunctions : choices .taxFunctions d.taxFunctions = .ok c.taxFunctions
  upgradeability : choiceOr .upgradeability .none d.upgradeability = .ok c.upgradeability
  presaleType : choiceOr .presaleType .none d.presaleType = .ok c.presaleType
  maxSupply : d.checkCap (c.has .cap) c.decimals c.initialSupply = .ok c.maxSupply
  antiWhale : d.checkAntiWhale (c.hasSecurity .antiWhale) c.decimals = .ok c.antiWhale
  tradingCooldown : d.checkCooldown (c.hasSecurity .antiBot) = .ok c.tradingCooldown

theorem validate_eq_ok_iff {d : Draft} {c : TokenConfig} : d.validate = .ok c ↔ d.Accepted c := by
  simp only [validate, bind_eq_ok_iff]
  constructor
  · rintro ⟨network, h₁, tokenName, h₂, tokenSymbol, h₃, contractName, h₄, decimals, h₅, supply, h₆,
      initialSupply, h₇, accessControl, h₈, accessManager, h₉, standardFunctions, h₁₀,
      securityFunctions, h₁₁, taxFunctions, h₁₂, upgradeability, h₁₃, presaleType, h₁₄,
      maxSupply, h₁₅, antiWhale, h₁₆, tradingCooldown, h₁₇, h⟩
    cases h
    exact ⟨h₁, h₂, h₃, h₄, h₅, ⟨supply, h₆, h₇⟩, h₈, h₉, h₁₀, h₁₁, h₁₂, h₁₃, h₁₄, h₁₅, h₁₆, h₁₇⟩
  · rintro ⟨h₁, h₂, h₃, h₄, h₅, ⟨supply, h₆, h₇⟩, h₈, h₉, h₁₀, h₁₁, h₁₂, h₁₃, h₁₄, h₁₅, h₁₆, h₁₇⟩
    exact ⟨_, h₁, _, h₂, _, h₃, _, h₄, _, h₅, supply, h₆, _, h₇, _, h₈, _, h₉, _, h₁₀, _, h₁₁,
      _, h₁₂, _, h₁₃, _, h₁₄, _, h₁₅, _, h₁₆, _, h₁₇, rfl⟩

/-- What can be asked of the configuration of a draft can be evaluated. -/
theorem exists_of_validate {d : Draft} {p : TokenConfig → Bool}
    (h : d.validate.toOption.any p = true) : ∃ c, d.validate = .ok c ∧ p c = true := by
  obtain ⟨c, hc, hp⟩ := (Option.any_eq_true _ _).mp h
  exact ⟨c, toOption_eq_some_iff.mp hc, hp⟩

/-! ## What each check has seen -/

theorem filled_eq_ok_iff {field : DraftField} {s t : String} :
    filled field s = .ok t ↔ t = Text.trim s ∧ t ≠ "" := by
  by_cases h : Text.trim s = ""
  · have hempty : filled field s = .error (.missing field) := by simp [filled, h]
    simp only [hempty, reduceCtorEq, h, false_iff]
    rintro ⟨rfl, hne⟩
    exact hne rfl
  · have hok : filled field s = .ok (Text.trim s) := by simp [filled, h]
    rw [hok, Except.ok.injEq]
    constructor
    · rintro rfl
      exact ⟨rfl, h⟩
    · rintro ⟨rfl, -⟩
      rfl

theorem amount_eq_ok_iff {field : DraftField} {s : String} {decimals : Nat} {a : Amount} :
    amount field s decimals = .ok a ↔ Amount.parse s decimals = .ok a :=
  mapError_eq_ok_iff

theorem parseAuthority_eq_ok_iff {s : String} {a : Address} :
    Address.parseAuthority s = .ok a ↔ Address.parse s = .ok a ∧ a ≠ 0 := by
  simp only [Address.parseAuthority, bind_eq_ok_iff]
  constructor
  · rintro ⟨x, hx, h⟩
    split at h
    · cases h
    · rename_i hne
      cases h
      exact ⟨hx, hne⟩
  · rintro ⟨h, hne⟩
    exact ⟨a, h, if_neg hne⟩

theorem checkAuthority_eq_ok_iff {d : Draft} {access : AccessControl} {a : Option Address} :
    d.checkAuthority access = .ok a ↔
      access ≠ .manager ∧ a = none ∨
        access = .manager ∧ ∃ s x, filled .accessManager (d.accessManager.getD "") = .ok s ∧
          Address.parse s = .ok x ∧ x ≠ 0 ∧ a = some x := by
  by_cases h : access = .manager
  · subst h
    simp only [checkAuthority, if_true, bind_eq_ok_iff, ne_eq, not_true, false_and, true_and,
      false_or]
    refine exists_congr fun s => ?_
    cases hs : Address.parseAuthority s with
    | error fault =>
      simp only [reduceCtorEq, and_false, false_iff]
      rintro ⟨x, -, hx, hne, -⟩
      simp [parseAuthority_eq_ok_iff.mpr ⟨hx, hne⟩] at hs
    | ok y =>
      obtain ⟨hy, hne⟩ := parseAuthority_eq_ok_iff.mp hs
      simp only [Except.ok.injEq, hy]
      constructor
      · rintro ⟨hfilled, rfl⟩
        exact ⟨y, hfilled, rfl, hne, rfl⟩
      · rintro ⟨_, hfilled, rfl, -, rfl⟩
        exact ⟨hfilled, rfl⟩
  · simp only [checkAuthority, h, if_false, Except.ok.injEq, ne_eq, not_false_eq_true, true_and,
      false_and, or_false]
    exact eq_comm

theorem checkCap_eq_ok_iff {d : Draft} {chosen : Bool} {decimals : Nat} {initial : Amount}
    {cap : Option Amount} :
    d.checkCap chosen decimals initial = .ok cap ↔
      chosen = false ∧ cap = none ∨
        chosen = true ∧ ∃ s a, d.maxSupply = some s ∧ Text.isBlankText s = false ∧
          Amount.parse s decimals = .ok a ∧ initial.baseUnits < a.baseUnits ∧ cap = some a := by
  cases chosen with
  | false => simpa [checkCap] using eq_comm
  | true =>
    simp only [checkCap, if_pos, Bool.true_eq_false, false_and, true_and, false_or]
    cases hs : d.maxSupply.filter (!Text.isBlankText ·) with
    | none =>
      simp only [reduceCtorEq, false_iff]
      rintro ⟨s, a, hsome, hblank, -⟩
      simp [hsome, hblank] at hs
    | some s =>
      obtain ⟨hsome, hblank⟩ := Option.filter_eq_some_iff.mp hs
      simp only [bind_eq_ok_iff, amount_eq_ok_iff, hsome, Option.some.injEq]
      constructor
      · rintro ⟨a, ha, h⟩
        split at h
        · cases h
        · rename_i hlt
          cases h
          exact ⟨s, a, rfl, by simpa using hblank, ha, Nat.not_le.mp hlt, rfl⟩
      · rintro ⟨_, a, rfl, -, ha, hlt, rfl⟩
        exact ⟨a, ha, if_neg (Nat.not_le.mpr hlt)⟩

theorem checkAntiWhale_eq_ok_iff {d : Draft} {chosen : Bool} {decimals : Nat}
    {w : Option AntiWhale} :
    d.checkAntiWhale chosen decimals = .ok w ↔
      chosen = false ∧ w = none ∨
        chosen = true ∧ ∃ holder transaction limits,
          filled .maxHolderLimit (d.maxHolderLimit.getD "") = .ok holder ∧
          filled .maxTransactionAmount (d.maxTransactionAmount.getD "") = .ok transaction ∧
          Amount.parse holder decimals = .ok limits.maxHolderLimit ∧
          Amount.parse transaction decimals = .ok limits.maxTransactionAmount ∧
          w = some limits := by
  cases chosen with
  | false => simpa [checkAntiWhale] using eq_comm
  | true =>
    simp only [checkAntiWhale, if_pos, bind_eq_ok_iff, amount_eq_ok_iff, Bool.true_eq_false,
      false_and, true_and, false_or]
    constructor
    · rintro ⟨holder, hholder, transaction, htransaction, h, hh, t, ht, hw⟩
      cases hw
      exact ⟨holder, transaction, ⟨h, t⟩, hholder, htransaction, hh, ht, rfl⟩
    · rintro ⟨holder, transaction, limits, hholder, htransaction, hh, ht, rfl⟩
      exact ⟨holder, hholder, transaction, htransaction, _, hh, _, ht, rfl⟩

/-! ## What an accepted draft has become -/

namespace Accepted

variable {d : Draft} {c : TokenConfig}

theorem tokenName_eq (h : d.Accepted c) : c.tokenName = Text.trim d.tokenName :=
  (filled_eq_ok_iff.mp h.tokenName).1

theorem tokenSymbol_eq (h : d.Accepted c) : c.tokenSymbol = Text.trim d.tokenSymbol :=
  (filled_eq_ok_iff.mp h.tokenSymbol).1

theorem initialSupply_parse (h : d.Accepted c) :
    Amount.parse d.initialSupply c.decimals = .ok c.initialSupply := by
  obtain ⟨s, hs, ha⟩ := h.initialSupply
  obtain ⟨rfl, -⟩ := filled_eq_ok_iff.mp hs
  rwa [amount_eq_ok_iff, Amount.parse_trim] at ha

/-- More decimals than amounts can have would have been refused with the initial supply. -/
theorem decimals_le (h : d.Accepted c) : c.decimals ≤ maxDecimals :=
  ((Amount.parse_eq_ok_iff _ _ _).mp h.initialSupply_parse).1

theorem authority (h : d.Accepted c) :
    c.accessControl ≠ .manager ∧ c.accessManager = none ∨
      c.accessControl = .manager ∧ ∃ x, c.accessManager = some x ∧ x ≠ 0 ∧
        Address.parse (Text.trim (d.accessManager.getD "")) = .ok x := by
  rcases checkAuthority_eq_ok_iff.mp h.accessManager with hno | ⟨hyes, s, x, hs, hx, hne, hsome⟩
  · exact .inl hno
  · obtain ⟨rfl, -⟩ := filled_eq_ok_iff.mp hs
    exact .inr ⟨hyes, x, hsome, hne, hx⟩

theorem cap (h : d.Accepted c) :
    c.has .cap = false ∧ c.maxSupply = none ∨
      c.has .cap = true ∧ ∃ s a, d.maxSupply = some s ∧ c.maxSupply = some a ∧
        Amount.parse s c.decimals = .ok a ∧ c.initialSupply.baseUnits < a.baseUnits := by
  rcases checkCap_eq_ok_iff.mp h.maxSupply with hno | ⟨hyes, s, a, hs, -, ha, hlt, hsome⟩
  · exact .inl hno
  · exact .inr ⟨hyes, s, a, hs, hsome, ha, hlt⟩

theorem limits (h : d.Accepted c) :
    c.hasSecurity .antiWhale = false ∧ c.antiWhale = none ∨
      c.hasSecurity .antiWhale = true ∧ ∃ w, c.antiWhale = some w ∧
        Amount.parse (d.maxHolderLimit.getD "") c.decimals = .ok w.maxHolderLimit ∧
        Amount.parse (d.maxTransactionAmount.getD "") c.decimals =
          .ok w.maxTransactionAmount := by
  rcases checkAntiWhale_eq_ok_iff.mp h.antiWhale with
    hno | ⟨hyes, holder, transaction, w, hholder, htransaction, hh, ht, hsome⟩
  · exact .inl hno
  · obtain ⟨rfl, -⟩ := filled_eq_ok_iff.mp hholder
    obtain ⟨rfl, -⟩ := filled_eq_ok_iff.mp htransaction
    rw [Amount.parse_trim] at hh ht
    exact .inr ⟨hyes, w, hsome, hh, ht⟩

theorem isSome_maxSupply (h : d.Accepted c) : c.maxSupply.isSome = c.has .cap := by
  rcases h.cap with ⟨hno, hnone⟩ | ⟨hyes, s, a, -, hsome, -⟩
  · rw [hno, hnone]
    rfl
  · rw [hyes, hsome]
    rfl

theorem isSome_antiWhale (h : d.Accepted c) : c.antiWhale.isSome = c.hasSecurity .antiWhale := by
  rcases h.limits with ⟨hno, hnone⟩ | ⟨hyes, w, hsome, -⟩
  · rw [hno, hnone]
    rfl
  · rw [hyes, hsome]
    rfl

theorem isSome_tradingCooldown (h : d.Accepted c) :
    c.tradingCooldown.isSome = c.hasSecurity .antiBot := by
  have hcheck := h.tradingCooldown
  unfold checkCooldown at hcheck
  split at hcheck
  · rename_i hyes
    rw [hyes]
    extract_lets s at hcheck
    split at hcheck
    · rw [← Except.ok.inj hcheck]
      rfl
    · cases hread :
          (readInteger (twoTo 64) s).mapError (ConfigError.badNumber .tradingCooldown s) with
      | error e =>
        rw [hread] at hcheck
        cases hcheck
      | ok n =>
        rw [hread] at hcheck
        rw [← Except.ok.inj hcheck]
        rfl
  · rename_i hno
    rw [← Except.ok.inj hcheck]
    simpa using hno

end Accepted

end Draft

end TokenLaunch
