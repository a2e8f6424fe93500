import TokenLaunch.Proofs.Fields
import TokenLaunch.Proofs.Grammar

/-!
# The field that is blamed

An error that names a field asks for another entry in it.  For every field there is one that is not
blamed, whatever else the draft holds, but for one case: decimals beyond what an amount can have are
found only when the initial supply is read, and no entry of it is without blame then.
-/

namespace TokenLaunch

/-- A check fails with an error that names the field. -/
def Blames {α : Type} (x : Except ConfigError α) (f : DraftField) : Prop :=
  ∃ e, x = .error e ∧ e.field? = some f

section Checks

variable {α β : Type} {x : Except ConfigError α} {f g : DraftField}

theorem not_blames_ok (a : α) (f : DraftField) : ¬ Blames (.ok a : Except ConfigError α) f := by
  rintro ⟨e, he, -⟩
  cases he

theorem Blames.ne_ok (h : Blames x f) (a : α) : x ≠ .ok a := by
  rintro rfl
  exact not_blames_ok a f h

theorem blames_error_iff {e : ConfigError} :
    Blames (.error e : Except ConfigError α) f ↔ e.field? = some f :=
  ⟨fun ⟨_, he, hf⟩ => Except.error.inj he ▸ hf, fun hf => ⟨e, rfl, hf⟩⟩

theorem eq_of_blames_error {e : ConfigError} (he : e.field? = some g)
    (h : Blames (.error e : Except ConfigError α) f) : f = g :=
  Option.some.inj ((blames_error_iff.mp h).symm.trans he)

/-- A sequence of checks blames what its first step does, and else what the rest does with the result
of that step. -/
theorem blames_bind_iff {k : α → Except ConfigError β} :
    Blames (x >>= k) f ↔ Blames x f ∨ ∃ a, x = .ok a ∧ Blames (k a) f := by
  cases x with
  | error e =>
    refine ⟨fun h => .inl (blames_error_iff.mpr (blames_error_iff.mp h)), ?_⟩
    rintro (h | ⟨a, ha, -⟩)
    · exact blames_error_iff.mpr (blames_error_iff.mp h)
    · cases ha
  | ok a =>
    refine ⟨fun h => .inr ⟨a, rfl, h⟩, ?_⟩
    rintro (h | ⟨a', ha, h⟩)
    · exact absurd h (not_blames_ok a f)
    · exact Except.ok.inj ha ▸ h

theorem Blames.of_mapError {ε : Type} {x : Except ε α} {k : ε → ConfigError}
    (hk : ∀ e, (k e).field? = some g) (h : Blames (x.mapError k) f) : f = g := by
  cases x with
  | error e => exact eq_of_blames_error (hk e) h
  | ok a => exact absurd h (not_blames_ok a f)

theorem Blames.of_map {k : α → β} (h : Blames (x.map k) f) : Blames x f := by
  cases x with
  | error e => exact blames_error_iff.mpr (blames_error_iff.mp h)
  | ok a => exact absurd h (not_blames_ok _ f)

end Checks

namespace Draft

open Text

variable {d d' : Draft} {f : DraftField}

/-- A text is read as no amount. -/
def Unreadable (s : String) (decimals : Nat) : Prop := ∀ a, Amount.parse s decimals ≠ .ok a

/-! ## What each check blames -/

theorem blames_filled_iff {g : DraftField} {s : String} :
    Blames (filled g s) f ↔ f = g ∧ trim s = "" := by
  by_cases h : trim s = ""
  · have hempty : filled g s = .error (.missing g) := by simp [filled, h]
    simp [hempty, blames_error_iff, ConfigError.field?, h, eq_comm]
  · have hfilled : filled g s = .ok (trim s) := filled_eq_ok_iff.mpr ⟨rfl, h⟩
    simp [hfilled, not_blames_ok, h]

theorem blames_amount_iff {g : DraftField} {s : String} {decimals : Nat} :
    Blames (amount g s decimals) f ↔ f = g ∧ Unreadable s decimals := by
  cases h : Amount.parse s decimals with
  | error fault =>
    have herror : amount g s decimals = .error (.badNumber g s fault) := by
      rw [amount, h]
      rfl
    simp [herror, blames_error_iff, ConfigError.field?, Unreadable, h, eq_comm]
  | ok a =>
    have hread : amount g s decimals = .ok a := amount_eq_ok_iff.mpr h
    simp [hread, not_blames_ok, Unreadable, h]

theorem eq_of_blames_choice {α : Type} [Choice α] {g : DraftField} {s : String}
    (h : Blames (choice g s : Except ConfigError α) f) : f = g := by
  unfold choice at h
  split at h
  · exact absurd h (not_blames_ok _ f)
  · exact eq_of_blames_error rfl h

theorem eq_of_blames_choiceOr {α : Type} [Choice α] {g : DraftField} {none : α} {s : String}
    (h : Blames (choiceOr g none s) f) : f = g := by
  unfold choiceOr at h
  split at h
  · exact absurd h (not_blames_ok _ f)
  · exact eq_of_blames_choice h

theorem eq_of_blames_choices {α : Type} [DecidableEq α] [Choice α] {g : DraftField}
    {ss : List String} (h : Blames (choices g ss : Except ConfigError (List α)) f) : f = g := by
  rcases blames_bind_iff.mp h with h | ⟨chosen, -, h⟩
  · clear * - h
    induction ss with
    | nil => exact absurd h (not_blames_ok _ f)
    | cons s ss ih =>
      simp only [List.mapM_cons, blames_bind_iff] at h
      rcases h with h | ⟨a, -, h | ⟨as, -, h⟩⟩
      · exact eq_of_blames_choice h
      · exact ih h
      · exact absurd h (not_blames_ok _ f)
  · exact absurd h (not_blames_ok _ f)

theorem eq_of_blames_checkNetwork (h : Blames d.checkNetwork f) : f = .network := by
  rcases blames_bind_iff.mp h with h | ⟨s, -, h⟩
  · exact (blames_filled_iff.mp h).1
  · split at h
    · exact absurd h (not_blames_ok _ f)
    · exact eq_of_blames_error rfl h

theorem eq_of_blames_checkContractName {s : String} (h : Blames (checkContractName s) f) :
    f = .tokenName := by
  unfold checkContractName at h
  split at h
  · exact absurd h (not_blames_ok _ f)
  · exact eq_of_blames_error rfl h

theorem eq_of_blames_checkDecimals (h : Blames d.checkDecimals f) : f = .decimals := by
  rw [checkDecimals] at h
  exact h.of_mapError fun _ => rfl

theorem eq_of_blames_checkAuthority {access : AccessControl}
    (h : Blames (d.checkAuthority access) f) : f = .accessManager := by
  unfold checkAuthority at h
  split at h
  · rcases blames_bind_iff.mp h with h | ⟨s, -, h⟩
    · exact (blames_filled_iff.mp h).1
    · split at h
      · exact absurd h (not_blames_ok _ f)
      · exact eq_of_blames_error rfl h
  · exact absurd h (not_blames_ok _ f)

theorem Unreadable.of_trim_eq {s : String} {decimals : Nat} (h : trim s = "") :
    Unreadable s decimals := by
  intro a ha
  exact (Amount.parse_eq_ok_iff_quantifies.mp ha).2.2.trim_ne h

theorem unreadable_filled {g : DraftField} {s t : String} {decimals : Nat}
    (h : filled g s = .ok t) : Unreadable t decimals ↔ Unreadable s decimals := by
  obtain ⟨rfl, -⟩ := filled_eq_ok_iff.mp h
  simp only [Unreadable, Amount.parse_trim]

/-- A cap that is too low is the fault of no field. -/
theorem blames_checkCap {chosen : Bool} {decimals : Nat} {initial : Amount}
    (h : Blames (d.checkCap chosen decimals initial) f) :
    f = .maxSupply ∧ Unreadable (d.maxSupply.getD "") decimals := by
  unfold checkCap at h
  split at h
  · split at h
    · rename_i hs
      refine ⟨eq_of_blames_error rfl h, .of_trim_eq ?_⟩
      cases hcap : d.maxSupply with
      | none => rfl
      | some s =>
        rw [hcap, Option.filter_eq_none_iff] at hs
        exact trim_eq_empty_iff.mpr (by simpa using hs s rfl)
    · rename_i s hs
      rcases blames_bind_iff.mp h with h | ⟨cap, -, h⟩
      · rw [(Option.filter_eq_some_iff.mp hs).1]
        exact blames_amount_iff.mp h
      · split at h
        · cases blames_error_iff.mp h
        · exact absurd h (not_blames_ok _ f)
  · exact absurd h (not_blames_ok _ f)

theorem blames_checkAntiWhale {chosen : Bool} {decimals : Nat}
    (h : Blames (d.checkAntiWhale chosen decimals) f) :
    f = .maxHolderLimit ∧ Unreadable (d.maxHolderLimit.getD "") decimals ∨
      f = .maxTransactionAmount ∧ Unreadable (d.maxTransactionAmount.getD "") decimals := by
  unfold checkAntiWhale at h
  split at h
  · simp only [blames_bind_iff] at h
    rcases h with h | ⟨holder, hholder, h | ⟨transaction, htransaction, h | ⟨x, -, h | ⟨y, -, h⟩⟩⟩⟩
    · exact .inl ((blames_filled_iff.mp h).imp_right .of_trim_eq)
    · exact .inr ((blames_filled_iff.mp h).imp_right .of_trim_eq)
    · exact .inl ((blames_amount_iff.mp h).imp_right (unreadable_filled hholder).mp)
    · exact .inr ((blames_amount_iff.mp h).imp_right (unreadable_filled htransaction).mp)
    · exact absurd h (not_blames_ok _ f)
  · exact absurd h (not_blames_ok _ f)

theorem eq_of_blames_checkCooldown {chosen : Bool} (h : Blames (d.checkCooldown chosen) f) :
    f = .tradingCooldown := by
  unfold checkCooldown at h
  split at h
  · extract_lets at h
    split at h
    · exact absurd h (not_blames_ok _ f)
    · exact h.of_map.of_mapError fun _ => rfl
  · exact absurd h (not_blames_ok _ f)

/-! ## What is wrong with a field that is blamed -/

/-- An entry that its check refuses.  The amounts that are read after the initial supply are read at
no more decimals than it could be. -/
inductive Faulty (d : Draft) : DraftField → Prop
  | network (h : ∀ n, d.checkNetwork ≠ .ok n) : Faulty d .network
  | tokenName (h : ∀ s, filled .tokenName d.tokenName ≠ .ok s) : Faulty d .tokenName
  | contractName {s : String} (hs : filled .tokenName d.tokenName = .ok s)
      (h : ∀ name, checkContractName s ≠ .ok name) : Faulty d .tokenName
  | tokenSymbol (h : ∀ s, filled .tokenSymbol d.tokenSymbol ≠ .ok s) : Faulty d .tokenSymbol
  | decimals (h : ∀ n, d.checkDecimals ≠ .ok n) : Faulty d .decimals
  | initialSupply {n : Nat} (hn : d.checkDecimals = .ok n) (h : Unreadable d.initialSupply n) :
    Faulty d .initialSupply
  | accessControl (h : ∀ a : AccessControl, choice .accessControl d.accessControl ≠ .ok a) :
    Faulty d .accessControl
  | accessManager {access : AccessControl} (h : ∀ a, d.checkAuthority access ≠ .ok a) :
    Faulty d .accessManager
  | standardFunctions
      (h : ∀ fs : List StandardFunction, choices .standardFunctions d.standardFunctions ≠ .ok fs) :
    Faulty d .standardFunctions
  | securityFunctions
      (h : ∀ fs : List SecurityFunction, choices .securityFunctions d.securityFunctions ≠ .ok fs) :
    Faulty d .securityFunctions
  | taxFunctions (h : ∀ fs : List TaxFunction, choices .taxFunctions d.taxFunctions ≠ .ok fs) :
    Faulty d .taxFunctions
  | upgradeability
      (h : ∀ u, choiceOr .upgradeability Upgradeability.none d.upgradeability ≠ .ok u) :
    Faulty d .upgradeability
  | presaleType (h : ∀ p, choiceOr .presaleType PresaleType.none d.presaleType ≠ .ok p) :
    Faulty d .presaleType
  | maxSupply {n : Nat} (hn : n ≤ maxDecimals) (h : Unreadable (d.maxSupply.getD "") n) :
    Faulty d .maxSupply
  | maxHolderLimit {n : Nat} (hn : n ≤ maxDecimals) (h : Unreadable (d.maxHolderLimit.getD "") n) :
    Faulty d .maxHolderLimit
  | maxTransactionAmount {n : Nat} (hn : n ≤ maxDecimals)
      (h : Unreadable (d.maxTransactionAmount.getD "") n) : Faulty d .maxTransactionAmount
  | tradingCooldown {chosen : Bool} (h : ∀ c, d.checkCooldown chosen ≠ .ok c) :
    Faulty d .tradingCooldown

/-- Only a field that is at fault is blamed. -/
theorem faulty_of_blames (h : Blames d.validate f) : d.Faulty f := by
  simp only [validate, blames_bind_iff] at h
  rcases h with h | ⟨network, -, h | ⟨tokenName, hname, h | ⟨tokenSymbol, -, h | ⟨contractName, -,
    h | ⟨decimals, hdecimals, h | ⟨supply, hsupply, h | ⟨initialSupply, hinitial, h⟩⟩⟩⟩⟩⟩⟩
  · obtain rfl := eq_of_blames_checkNetwork h
    exact .network h.ne_ok
  · obtain rfl := (blames_filled_iff.mp h).1
    exact .tokenName h.ne_ok
  · obtain rfl := (blames_filled_iff.mp h).1
    exact .tokenSymbol h.ne_ok
  · obtain rfl := eq_of_blames_checkContractName h
    exact .contractName hname h.ne_ok
  · obtain rfl := eq_of_blames_checkDecimals h
    exact .decimals h.ne_ok
  · obtain ⟨rfl, hblank⟩ := blames_filled_iff.mp h
    exact .initialSupply hdecimals (.of_trim_eq hblank)
  · obtain ⟨rfl, hunread⟩ := blames_amount_iff.mp h
    exact .initialSupply hdecimals ((unreadable_filled hsupply).mp hunread)
  have hscale : decimals ≤ maxDecimals :=
    (Amount.parse_eq_ok_iff_quantifies.mp (amount_eq_ok_iff.mp hinitial)).1
  rcases h with h | ⟨access, -, h | ⟨manager, -, h | ⟨standard, -, h | ⟨security, -, h | ⟨tax, -,
    h | ⟨upgradeability, -, h | ⟨presale, -, h | ⟨cap, -, h | ⟨limits, -, h | ⟨cooldown, -,
    h⟩⟩⟩⟩⟩⟩⟩⟩⟩⟩
  · obtain rfl := eq_of_blames_choice h
    exact .accessControl h.ne_ok
  · obtain rfl := eq_of_blames_checkAuthority h
    exact .accessManager h.ne_ok
  · obtain rfl := eq_of_blames_choices h
    exact .standardFunctions h.ne_ok
  · obtain rfl := eq_of_blames_choices h
    exact .securityFunctions h.ne_ok
  · obtain rfl := eq_of_blames_choices h
    exact .taxFunctions h.ne_ok
  · obtain rfl := eq_of_blames_choiceOr h
    exact .upgradeability h.ne_ok
  · obtain rfl := eq_of_blames_choiceOr h
    exact .presaleType h.ne_ok
  · obtain ⟨rfl, hcap⟩ := blames_checkCap h
    exact .maxSupply hscale hcap
  · rcases blames_checkAntiWhale h with ⟨rfl, hholder⟩ | ⟨rfl, htransaction⟩
    · exact .maxHolderLimit hscale hholder
    · exact .maxTransactionAmount hscale htransaction
  · obtain rfl := eq_of_blames_checkCooldown h
    exact .tradingCooldown h.ne_ok
  · exact absurd h (not_blames_ok _ f)

/-! ## Entries without blame -/

/-- An entry that no check refuses. -/
def remedy : (f : DraftField) → f.Entry
  | .network => "sepolia"
  | .tokenName => "Tin"
  | .tokenSymbol => "TIN"
  | .decimals => "18"
  | .initialSupply => "0"
  | .maxSupply => some "0"
  | .accessControl => "none"
  | .accessManager => some "0x0000000000000000000000000000000000000001"
  | .standardFunctions => []
  | .securityFunctions => []
  | .taxFunctions => []
  | .upgradeability => ""
  | .presaleType => ""
  | .maxHolderLimit => some "0"
  | .maxTransactionAmount => some "0"
  | .tradingCooldown => none

/-- Nothing is a quantity at any number of decimals that an amount can have. -/
theorem not_unreadable_zero {n : Nat} (hn : n ≤ maxDecimals) : ¬ Unreadable "0" n := by
  have hzero : Denotes (trim "0").toList 0 := by
    have hdigits : IsDigits ['0'] := ⟨List.cons_ne_nil _ _, List.forall_mem_singleton.mpr rfl⟩
    have hdenotes : Denotes ['0'] (number ['0']) := .whole hdigits
    have hnumber : number ['0'] = 0 := rfl
    have htrim : (trim "0").toList = ['0'] := rfl
    rwa [hnumber, Nat.cast_zero, ← htrim] at hdenotes
  intro h
  refine h ⟨trim "0", 0⟩ ((Amount.parse_eq_ok_iff _ _ _).mpr ⟨hn, 0, hzero, ?_, ?_⟩)
  · simp [wordBound, twoTo_pos]
  · simp

theorem not_faulty_of_remedy (hentry : d.entry f = remedy f)
    (hscale : f = .initialSupply → ∀ n, d.checkDecimals = .ok n → n ≤ maxDecimals) :
    ¬ d.Faulty f := by
  intro h
  cases h with
  | network h =>
    have hnetwork : d.network = "sepolia" := hentry
    refine h .sepolia (checkNetwork_eq_ok_iff.mpr ?_)
    rw [hnetwork]
    decide +kernel
  | tokenName h =>
    have hname : d.tokenName = "Tin" := hentry
    exact h "Tin" (by rw [hname]; rfl)
  | contractName hs h =>
    have hname : d.tokenName = "Tin" := hentry
    obtain ⟨rfl, -⟩ := filled_eq_ok_iff.mp hs
    exact h "TIN" (by rw [hname]; rfl)
  | tokenSymbol h =>
    have hsymbol : d.tokenSymbol = "TIN" := hentry
    exact h "TIN" (by rw [hsymbol]; rfl)
  | decimals h =>
    have hcheck : d.checkDecimals = (ofEntries remedy).checkDecimals := checkDecimals_congr hentry
    exact h 18 (by rw [hcheck]; rfl)
  | initialSupply hn h =>
    have hsupply : d.initialSupply = "0" := hentry
    rw [hsupply] at h
    exact not_unreadable_zero (hscale rfl _ hn) h
  | accessControl h =>
    have haccess : d.accessControl = "none" := hentry
    refine h .none (choice_eq_ok_iff.mpr ?_)
    rw [haccess]
    decide +kernel
  | @accessManager access h =>
    by_cases hmanager : access = .manager
    · have hauthority : Address.parse "0x0000000000000000000000000000000000000001" = .ok 1 := by
        decide +kernel
      have haddress : d.accessManager = some "0x0000000000000000000000000000000000000001" := hentry
      refine h (some 1) (checkAuthority_eq_ok_iff.mpr
        (.inr ⟨hmanager, _, 1, ?_, hauthority, by decide, rfl⟩))
      rw [haddress]
      rfl
    · exact h none (checkAuthority_eq_ok_iff.mpr (.inl ⟨hmanager, rfl⟩))
  | standardFunctions h =>
    have hchosen : d.standardFunctions = [] := hentry
    exact h [] (by rw [hchosen]; rfl)
  | securityFunctions h =>
    have hchosen : d.securityFunctions = [] := hentry
    exact h [] (by rw [hchosen]; rfl)
  | taxFunctions h =>
    have hchosen : d.taxFunctions = [] := hentry
    exact h [] (by rw [hchosen]; rfl)
  | upgradeability h =>
    have hchosen : d.upgradeability = "" := hentry
    exact h .none (by rw [hchosen]; rfl)
  | presaleType h =>
    have hchosen : d.presaleType = "" := hentry
    exact h .none (by rw [hchosen]; rfl)
  | maxSupply hn h =>
    have hcap : d.maxSupply = some "0" := hentry
    rw [hcap] at h
    exact not_unreadable_zero hn h
  | maxHolderLimit hn h =>
    have hlimit : d.maxHolderLimit = some "0" := hentry
    rw [hlimit] at h
    exact not_unreadable_zero hn h
  | maxTransactionAmount hn h =>
    have hlimit : d.maxTransactionAmount = some "0" := hentry
    rw [hlimit] at h
    exact not_unreadable_zero hn h
  | @tradingCooldown chosen h =>
    have hcooldown : d.tradingCooldown = none := hentry
    cases chosen with
    | false => exact h none (checkCooldown_eq_ok_iff.mpr (.inl ⟨rfl, rfl⟩))
    | true =>
      refine h (some 30) (checkCooldown_eq_ok_iff.mpr (.inr ⟨rfl, 30, rfl, .inl ⟨?_, rfl⟩⟩))
      rw [hcooldown]
      rfl

/-! ## Decimals that no amount can have -/

theorem unreadable_of_scale {n : Nat} (h : maxDecimals < n) (s : String) : Unreadable s n :=
  fun _ ha => Nat.not_le.mpr h (Amount.parse_eq_ok_iff_quantifies.mp ha).1

/-- The checks before that of the initial supply succeed, and the draft has so many decimals. -/
structure Opens (d : Draft) (n : Nat) : Prop where
  network : ∃ x, d.checkNetwork = .ok x
  tokenName : ∃ s, filled .tokenName d.tokenName = .ok s ∧ ∃ name, checkContractName s = .ok name
  tokenSymbol : ∃ s, filled .tokenSymbol d.tokenSymbol = .ok s
  decimals : d.checkDecimals = .ok n

/-- None of them reads the initial supply. -/
theorem Opens.of_agreeOff {n : Nat} (h : d.Opens n) (hsame : AgreeOff (· = .initialSupply) d d') :
    d'.Opens n := by
  have hnetwork : d.network = d'.network := hsame .network nofun
  have hname : d.tokenName = d'.tokenName := hsame .tokenName nofun
  have hsymbol : d.tokenSymbol = d'.tokenSymbol := hsame .tokenSymbol nofun
  have hdecimals : d.decimals = d'.decimals := hsame .decimals nofun
  exact {
    network := checkNetwork_congr hnetwork ▸ h.network
    tokenName := hname ▸ h.tokenName
    tokenSymbol := hsymbol ▸ h.tokenSymbol
    decimals := checkDecimals_congr hdecimals ▸ h.decimals }

theorem blames_initialSupply_iff :
    Blames d.validate .initialSupply ↔ ∃ n, d.Opens n ∧ Unreadable d.initialSupply n := by
  constructor
  · intro h
    cases faulty_of_blames h with
    | @initialSupply n hn hsupply =>
      refine ⟨n, ?_, hsupply⟩
      simp only [validate, blames_bind_iff] at h
      rcases h with h | ⟨network, hnetwork, h | ⟨name, hname, h | ⟨symbol, hsymbol, h |
        ⟨contractName, hcontract, -⟩⟩⟩⟩
      · cases eq_of_blames_checkNetwork h
      · cases (blames_filled_iff.mp h).1
      · cases (blames_filled_iff.mp h).1
      · cases eq_of_blames_checkContractName h
      · exact ⟨⟨_, hnetwork⟩, ⟨_, hname, _, hcontract⟩, ⟨_, hsymbol⟩, hn⟩
  · rintro ⟨n, ⟨⟨network, hnetwork⟩, ⟨name, hname, contractName, hcontract⟩, ⟨symbol, hsymbol⟩,
      hdecimals⟩, hsupply⟩
    simp only [validate, blames_bind_iff]
    refine .inr ⟨network, hnetwork, .inr ⟨name, hname, .inr ⟨symbol, hsymbol, .inr ⟨contractName,
      hcontract, .inr ⟨n, hdecimals, ?_⟩⟩⟩⟩⟩
    by_cases hblank : trim d.initialSupply = ""
    · exact .inl (blames_filled_iff.mpr ⟨rfl, hblank⟩)
    · have hfilled : filled .initialSupply d.initialSupply = .ok (trim d.initialSupply) :=
        filled_eq_ok_iff.mpr ⟨rfl, hblank⟩
      exact .inr ⟨_, hfilled, .inl (blames_amount_iff.mpr
        ⟨rfl, (unreadable_filled hfilled).mpr hsupply⟩)⟩

/-- Another entry in a field that is blamed is without blame, unless the field is the initial supply
and the draft has more decimals than an amount can have. -/
theorem correctable_iff_of_blames (h : Blames d.validate f) :
    (∃ d', AgreeOff (· = f) d d' ∧ ¬ Blames d'.validate f) ↔
      ¬ (f = .initialSupply ∧ ∃ n, d.checkDecimals = .ok n ∧ 77 < n) := by
  constructor
  · rintro ⟨d', hsame, hclear⟩ ⟨rfl, n, hn, hwide⟩
    obtain ⟨m, hopens, -⟩ := blames_initialSupply_iff.mp h
    obtain rfl := Except.ok.inj (hn.symm.trans hopens.decimals)
    exact hclear (blames_initialSupply_iff.mpr
      ⟨n, hopens.of_agreeOff hsame, unreadable_of_scale hwide _⟩)
  · intro hscale
    obtain ⟨d', hsame, hentry⟩ := d.exists_agreeOff f (remedy f)
    refine ⟨d', hsame, fun hblames => not_faulty_of_remedy hentry ?_ (faulty_of_blames hblames)⟩
    rintro rfl n hn
    have hdecimals : d.decimals = d'.decimals := hsame .decimals nofun
    rw [← checkDecimals_congr hdecimals] at hn
    exact Nat.not_lt.mp fun hwide => hscale ⟨rfl, n, hn, hwide⟩

/-- A draft whose limit on single holders lacks the digits behind its point. -/
def pointedDraft : Draft := { cappedDraft with maxHolderLimit := some "3." }

theorem correctable_pointedDraft : Blames pointedDraft.validate .maxHolderLimit ∧
    ∃ d', AgreeOff (· = .maxHolderLimit) pointedDraft d' ∧
      ¬ Blames d'.validate .maxHolderLimit := by
  have hblames : Blames pointedDraft.validate .maxHolderLimit :=
    ⟨.badNumber .maxHolderLimit "3." .notDecimal, by decide +kernel, rfl⟩
  exact ⟨hblames, (correctable_iff_of_blames hblames).mpr fun hf => nomatch hf.1⟩

/-- A draft with more decimals than an amount can have, and a supply that has nothing wrong. -/
def wideDraft : Draft := { Draft.default with
  network := "sepolia"
  tokenName := "Tin"
  tokenSymbol := "TIN"
  decimals := "78"
  initialSupply := "1" }

/-- Its supply is blamed, and would be whatever was entered in its place. -/
theorem uncorrectable_wideDraft : Blames wideDraft.validate .initialSupply ∧
    ∀ d', AgreeOff (· = .initialSupply) wideDraft d' → Blames d'.validate .initialSupply := by
  have hblames : Blames wideDraft.validate .initialSupply :=
    ⟨.badNumber .initialSupply "1" (.scale 78), by decide +kernel, rfl⟩
  refine ⟨hblames, fun d' hsame => ?_⟩
  obtain ⟨n, hopens, -⟩ := blames_initialSupply_iff.mp hblames
  have hn : wideDraft.checkDecimals = .ok 78 := by decide +kernel
  obtain rfl := Except.ok.inj (hn.symm.trans hopens.decimals)
  exact blames_initialSupply_iff.mpr
    ⟨78, hopens.of_agreeOff hsame, unreadable_of_scale (by decide) _⟩

end Draft

end TokenLaunch
