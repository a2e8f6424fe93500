import TokenLaunch.Proofs.Ledger.Construction

/-!
# Where the bypass is taken

The construction of a guarded token mints by the bypass of its hook.  Afterwards a mint finds no
supply, and passes by every guard again, exactly where somebody may mint and nothing was minted or
everything can be burned.
-/

namespace TokenLaunch

open Solidity Solidity.Run Synthesis

variable {L : Library} {c : TokenConfig} {d : Draft} {cap : Option Nat} {deployer sender : Address}
  {timestamp : Word} {o : Operation} {m : Move} {t t' : Token}

namespace Library

/-! ## After the construction -/

/-- A token that was constructed and of which nothing else has happened. -/
structure Fresh (c : TokenConfig) (deployer : Address) (t : Token) : Prop where
  running : t.paused = false
  supply : t.supply.toNat = c.initialSupply.baseUnits
  balance : t.balance deployer = t.supply
  unlisted : ∀ a, t.flagEntry "_blacklisted" a = false
  listed : c.hasSecurity .allowlist = true → t.flagEntry "_allowlisted" deployer = true

/-- What the construction leaves behind. -/
theorem fresh_welcomed (hL : L.Documented cap) (hd : d.Accepted c) (hdeployer : deployer ≠ 0)
    (h : L.update (initialMint c deployer) c.contract.blank = .ok t) :
    Fresh c deployer (welcomed c deployer t) := by
  have hword : c.initialSupply.baseUnits < 2 ^ 256 := (Amount.scaled hd.initialSupply_parse).2
  have hvalue : (initialMint c deployer).value.toNat = c.initialSupply.baseUnits := by
    rw [initialMint, BitVec.toNat_ofNat, Nat.mod_eq_of_lt hword]
  obtain ⟨hsupply, hbalance⟩ := hL.minted rfl hdeployer h
  have hnothing : c.contract.blank.supply.toNat = 0 ∧ c.contract.blank.balance deployer = 0 :=
    ⟨rfl, rfl⟩
  rw [hvalue, hnothing.1, Nat.zero_add] at hsupply
  have hmoved := hL.moved h
  constructor
  · rw [paused_welcomed, hmoved]
    rfl
  · rw [supply_welcomed, hsupply]
  · rw [balance_welcomed, supply_welcomed]
    have hpayee : (initialMint c deployer).payee = deployer := rfl
    rw [hpayee, hnothing.2] at hbalance
    refine hbalance.trans (BitVec.eq_of_toNat_eq ?_)
    simp [hvalue, hsupply]
  · intro a
    rw [flagEntry_welcomed (by decide), hmoved]
    rfl
  · intro hallowlist
    rw [welcomed, if_pos hallowlist]
    simp

/-- Nothing stands in the way of the mint of the initial supply. -/
theorem exists_initialMint (hL : L.Documented (c.maxSupply.map (·.baseUnits))) (hd : d.Accepted c)
    (hdeployer : deployer ≠ 0) :
    ∃ t, L.update (initialMint c deployer) c.contract.blank = .ok t := by
  have hword : c.initialSupply.baseUnits < 2 ^ 256 := (Amount.scaled hd.initialSupply_parse).2
  have hsum : c.contract.blank.supply.toNat + (initialMint c deployer).value.toNat =
      c.initialSupply.baseUnits := by
    have hnothing : c.contract.blank.supply.toNat = 0 := rfl
    rw [hnothing, Nat.zero_add, initialMint, BitVec.toNat_ofNat, Nat.mod_eq_of_lt hword]
  refine hL.mints rfl hdeployer (hsum ▸ hword) fun n hn => ?_
  obtain ⟨cap, hcap, rfl⟩ := Option.map_eq_some_iff.mp hn
  rw [hsum]
  rcases hd.cap with ⟨-, hnone⟩ | ⟨-, _, a, -, hsome, -, hlt⟩
  · rw [hnone] at hcap
    cases hcap
  · rw [hsome] at hcap
    cases hcap
    exact Nat.le_of_lt hlt

/-- Whoever holds all of a fresh token can burn it. -/
theorem perform_burn_of_fresh (hL : L.Documented cap) (hd : d.Accepted c)
    (hguarded : c.isGuarded = true) (hdeployer : deployer ≠ 0) (h : Fresh c deployer t)
    (timestamp : Word) :
    ∃ t', L.perform c deployer timestamp (.burn deployer t.supply) t = .ok t' ∧ t'.supply = 0 := by
  have hpermitted : Permitted c timestamp ⟨deployer, 0, t.supply⟩ t :=
    { running := fun _ => h.running
      unlisted := fun _ => ⟨h.unlisted _, h.unlisted _⟩
      listed := fun hallowlist _ => .inl (h.listed hallowlist)
      limited := fun _ _ hpayee => absurd rfl hpayee
      rested := fun _ _ hpayee => absurd rfl hpayee }
  have htraded : t.traded c timestamp ⟨deployer, 0, t.supply⟩ = t := by
    rw [Token.traded, if_neg]
    exact fun hholders => hholders.2.2 rfl
  have hvalue : t.supply ≤ t.balance deployer := by
    rw [h.balance]
    exact BitVec.le_refl _
  obtain ⟨t', ht'⟩ := hL.burns (m := ⟨deployer, 0, t.supply⟩) hdeployer rfl hvalue
  refine ⟨t', moving_eq_ok_iff.mpr ⟨⟨deployer, 0, t.supply⟩, hL.burning.mpr ⟨hdeployer, rfl⟩,
    (move_eq_ok_iff hd hguarded).mpr ⟨.inr hpermitted, ?_⟩⟩, ?_⟩
  · rwa [htraded]
  · rw [hL.burned hdeployer rfl ht', BitVec.sub_self]
    rfl

/-! ## The bypass -/

/-- An operation that makes the hook take its bypass. -/
def TakesBypass (L : Library) (c : TokenConfig) (sender : Address) (timestamp : Word)
    (o : Operation) (t : Token) : Prop :=
  ∃ m t', (m, t') ∈ L.asks c sender timestamp o t ∧ Unguarded c m t'

/-- Somebody may mint. -/
def Mintable (L : Library) (c : TokenConfig) : Prop :=
  c.has .mint = true ∧ ∃ g a, guard c.accessControl minterRole = some g ∧ L.admits g a

theorem invoked_mintFunction (g : Guard) (payee : Address) (value : Word) :
    L.invoked c sender timestamp (mintFunction g) [.account payee, .word value] t =
      calling (L.callee c sender timestamp) "_mint" [.account payee, .word value] t := by
  have hbody : (mintFunction g).body = [mintTo (.name "to") (.name "amount")] := rfl
  rw [invoked, Function.invoke, hbody, Statement.execAll_singleton, mintTo, Statement.exec]
  simp [Expression.evalAll, Expression.eval, Frame.read, mintFunction, privileged, List.lookup_cons]

/-- While there is no supply, every mint takes the bypass. -/
theorem takesBypass_mint (hL : L.Documented cap) (hguarded : c.isGuarded = true) {g : Guard}
    {payee : Address} (hpayee : payee ≠ 0) (value : Word) (h : t.supply = 0) :
    L.TakesBypass c sender timestamp (.call (mintFunction g) [.account payee, .word value]) t := by
  have hminting := hL.minting.mpr (And.intro hpayee (rfl : (⟨0, payee, value⟩ : Move) = _))
  refine ⟨⟨0, payee, value⟩, t, ?_, hguarded, rfl, h⟩
  rw [asks, invoked_mintFunction]
  simp [asked, asked?, calling, hminting, Except.toOption]

/-- While there is no supply, a mint that the bases let pass succeeds. -/
theorem perform_mint (hL : L.Documented cap) (hd : d.Accepted c) (hguarded : c.isGuarded = true)
    {payee : Address} (hpayee : payee ≠ 0) {value : Word} (h : t.supply = 0)
    (hcap : ∀ n, cap = some n → value.toNat ≤ n) (sender : Address) (timestamp : Word) (g : Guard) :
    ∃ t', L.perform c sender timestamp
      (.call (mintFunction g) [.account payee, .word value]) t = .ok t' := by
  have hnothing : t.supply.toNat = 0 := by
    rw [h]
    rfl
  have hword : t.supply.toNat + value.toNat < 2 ^ 256 := by
    rw [hnothing, Nat.zero_add]
    exact value.isLt
  have hbelow : ∀ n, cap = some n → t.supply.toNat + value.toNat ≤ n := by
    rwa [hnothing, Nat.zero_add]
  obtain ⟨t', ht'⟩ := hL.mints (m := ⟨0, payee, value⟩) rfl hpayee hword hbelow
  refine ⟨t', ?_⟩
  rw [perform, invoked_mintFunction, result_calling, callee, if_pos rfl]
  refine moving_eq_ok_iff.mpr ⟨_, hL.minting.mpr ⟨hpayee, rfl⟩,
    (move_eq_ok_iff hd hguarded).mpr ⟨.inl ⟨hguarded, rfl, h⟩, ?_⟩⟩
  rwa [traded_of_payer rfl]

/-- What takes the bypass is a mint. -/
theorem mintable_of_takesBypass (hL : L.Documented cap) (hd : d.Accepted c)
    (hguarded : c.isGuarded = true) (ho : L.Offered c sender o)
    (h : L.TakesBypass c sender timestamp o t) : L.Mintable c := by
  obtain ⟨m, t', hasks, -, hpayer, -⟩ := h
  cases ho with
  | transfer payer payee value =>
    obtain ⟨m', hm, heq⟩ := List.mem_map.mp hasks
    obtain ⟨hne, -, rfl⟩ := hL.transferring.mp (toOption_eq_some_iff.mp (Option.mem_toList.mp hm))
    cases heq
    exact absurd hpayer hne
  | burn _ payer value =>
    obtain ⟨m', hm, heq⟩ := List.mem_map.mp hasks
    obtain ⟨hne, rfl⟩ := hL.burning.mp (toOption_eq_some_iff.mp (Option.mem_toList.mp hm))
    cases heq
    exact absurd hpayer hne
  | @call f args hf hvisible hadmits =>
    obtain ⟨payee, value, hk, -⟩ := mem_asked hasks
    have hcalled := (keeps_invoked hL hd hguarded f args t).named _ hk
    obtain ⟨hmint, g, hg, rfl⟩ := (mem_functions_iff.mp hf).eq_mintFunction hvisible hcalled
    exact ⟨hmint, g, sender, hg, hadmits g rfl⟩

/-! ## The supply after the construction -/

/-- Where nothing can be burned, no operation takes away from the supply. -/
theorem grows_perform (hL : L.Documented cap) (hd : d.Accepted c) (hguarded : c.isGuarded = true)
    (hburn : c.has .burn = false) (ho : L.Offered c sender o)
    (h : L.perform c sender timestamp o t = .ok t') : Grows t t' := by
  cases ho with
  | burn hyes =>
    rw [hburn] at hyes
    cases hyes
  | call => exact (keeps_invoked hL hd hguarded _ _ t).left t' h
  | transfer payer payee value =>
    obtain ⟨m, hm, hmove⟩ := moving_eq_ok_iff.mp h
    obtain ⟨hpayer, hpayee, rfl⟩ := hL.transferring.mp hm
    obtain ⟨-, hupdate⟩ := (move_eq_ok_iff hd hguarded).mp hmove
    rw [Grows, hL.transferred hpayer hpayee hupdate, supply_traded]
    exact BitVec.le_refl _

/-- A move finds no less supply than the operation that asks for it. -/
theorem grows_asks (hL : L.Documented cap) (hd : d.Accepted c) (hguarded : c.isGuarded = true)
    (h : (m, t') ∈ L.asks c sender timestamp o t) : Grows t t' := by
  cases o with
  | call f args =>
    obtain ⟨payee, value, hk, -⟩ := mem_asked h
    exact (keeps_invoked hL hd hguarded f args t).found _ hk
  | transfer | burn =>
    obtain ⟨_, -, heq⟩ := List.mem_map.mp h
    cases heq
    exact stable_grows.refl t

/-- Where something was minted and nothing can be burned, there always is a supply. -/
theorem Reachable.supply_ne_zero (hL : L.Documented (c.maxSupply.map (·.baseUnits)))
    (hd : d.Accepted c) (hguarded : c.isGuarded = true) (hdeployer : deployer ≠ 0)
    (hburn : c.has .burn = false) (hsupply : c.initialSupply.baseUnits ≠ 0)
    (h : L.Reachable c deployer t) : t.supply ≠ 0 := by
  -- the supply is a number above zero at first, and no operation takes away from it
  have hpos : 0 < t.supply.toNat := by
    induction h with
    | constructed h =>
      obtain ⟨t₁, ht₁⟩ := exists_initialMint hL hd hdeployer
      rw [(construct_eq hL hd hguarded hdeployer ht₁ _).1] at h
      cases h
      rw [(fresh_welcomed hL hd hdeployer ht₁).supply]
      exact Nat.pos_of_ne_zero hsupply
    | performed _ ho hperform ih =>
      exact lt_of_lt_of_le ih (BitVec.le_def.mp (grows_perform hL hd hguarded hburn ho hperform))
  rintro hzero
  rw [hzero] at hpos
  exact absurd hpos (by decide)

/-- A token at which the bypass can be taken again. -/
theorem exists_reachable_supply_eq_zero (hL : L.Documented (c.maxSupply.map (·.baseUnits)))
    (hd : d.Accepted c) (hguarded : c.isGuarded = true) (hdeployer : deployer ≠ 0)
    (h : c.initialSupply.baseUnits = 0 ∨ c.has .burn = true) :
    ∃ t, L.Reachable c deployer t ∧ t.supply = 0 := by
  obtain ⟨t₁, ht₁⟩ := exists_initialMint hL hd hdeployer
  have hfresh := fresh_welcomed hL hd hdeployer ht₁
  have hreachable : L.Reachable c deployer (welcomed c deployer t₁) :=
    .constructed (construct_eq hL hd hguarded hdeployer ht₁ 0).1
  rcases h with hzero | hburn
  · exact ⟨_, hreachable, BitVec.eq_of_toNat_eq (hfresh.supply.trans hzero)⟩
  · obtain ⟨t', hperform, hsupply⟩ := perform_burn_of_fresh hL hd hguarded hdeployer
      hfresh 0
    exact ⟨t', hreachable.performed (.burn hburn _ _) hperform, hsupply⟩

end Library

open Library

/-- Where the bypass of a guarded token is taken: by its construction, and afterwards exactly where
somebody may mint and nothing was minted or everything can be burned.  Every other move is subject
to the guards. -/
structure BypassUse (L : Library) (c : TokenConfig) (deployer : Address) : Prop where
  constructed : ∀ timestamp, ∃ m t t', L.asked (L.construct c deployer timestamp) = [(m, t)] ∧
    Unguarded c m t ∧ (L.construct c deployer timestamp).result = .ok t' ∧
    t'.supply.toNat = c.initialSupply.baseUnits
  later : (∃ t sender timestamp o, L.Reachable c deployer t ∧ L.Offered c sender o ∧
      L.TakesBypass c sender timestamp o t) ↔
    L.Mintable c ∧ (c.initialSupply.baseUnits = 0 ∨ c.has .burn = true)
  subject : ∀ sender timestamp o t t'' m t', (m, t') ∈ L.asks c sender timestamp o t →
    L.perform c sender timestamp o t = .ok t'' → ¬ Unguarded c m t' → Permitted c timestamp m t'

/-- Over a library as it is documented, a guarded token of an accepted draft takes the bypass there
and nowhere else. -/
theorem bypassUse_of_validate (hL : L.Documented (c.maxSupply.map (·.baseUnits)))
    (h : d.validate = .ok c) (hguarded : c.isGuarded = true) (hdeployer : deployer ≠ 0) :
    BypassUse L c deployer := by
  have hd := Draft.validate_eq_ok_iff.mp h
  refine ⟨fun timestamp => ?_, ⟨?_, ?_⟩, ?_⟩
  · obtain ⟨t, ht⟩ := exists_initialMint hL hd hdeployer
    obtain ⟨hresult, hasked⟩ :=
      construct_eq hL hd hguarded hdeployer ht timestamp
    exact ⟨_, _, _, hasked, unguarded_initialMint hguarded, hresult,
      (fresh_welcomed hL hd hdeployer ht).supply⟩
  · rintro ⟨t, sender, timestamp, o, hreachable, ho, htakes⟩
    refine ⟨mintable_of_takesBypass hL hd hguarded ho htakes, ?_⟩
    by_contra hno
    rw [not_or, Bool.not_eq_true] at hno
    obtain ⟨m, t', hasks, -, -, hsupply⟩ := htakes
    have hgrows := grows_asks hL hd hguarded hasks
    rw [Grows, hsupply] at hgrows
    exact hreachable.supply_ne_zero hL hd hguarded hdeployer hno.2 hno.1
      (BitVec.le_zero_iff.mp hgrows)
  · -- the mint of nothing takes the bypass too
    rintro ⟨⟨hmint, g, a, hg, hadmits⟩, hzero⟩
    obtain ⟨t, hreachable, hsupply⟩ :=
      exists_reachable_supply_eq_zero hL hd hguarded hdeployer hzero
    have hvisible : (mintFunction g).visibility ≠ .isInternal := by simp [mintFunction, privileged]
    refine ⟨t, a, 0, _, hreachable, .call (mem_functions_iff.mpr (.mint hmint hg)) hvisible ?_,
      takesBypass_mint hL hguarded hdeployer 0 hsupply⟩
    rintro g' ⟨⟩
    exact hadmits
  · intro sender timestamp o t t'' m t' hasks hperform hno
    exact (passes_of_perform hL hd hguarded hasks hperform).resolve_left hno

theorem bypassUse_guardedDraft : ∃ c, guardedDraft.validate = .ok c ∧ c.isGuarded = true ∧
    BypassUse (.plain (c.maxSupply.map (·.baseUnits)) 1) c 1 := by
  have hchosen : guardedDraft.validate.toOption.any TokenConfig.isGuarded = true := by
    decide +kernel
  obtain ⟨c, hc, hguarded⟩ := Draft.exists_of_validate hchosen
  exact ⟨c, hc, hguarded, bypassUse_of_validate (documented_plain _ 1) hc hguarded (by decide)⟩

/-! ## A token without an initial supply -/

/-- A draft with an initial supply of nothing. -/
def unissuedDraft : Draft :=
  { guardedDraft with
    initialSupply := "0"
    maxSupply := none
    accessControl := "ownable"
    standardFunctions := ["mint", "pause"]
    securityFunctions := ["blacklist"] }

theorem perform_pause (sender : Address) (timestamp : Word) (g : Guard) :
    L.perform c sender timestamp
      (.call (privileged "pause" .isPublic g [] [.eval (.call "_pause" [])]) []) t = L.pause t := by
  have hinvoked : L.invoked c sender timestamp
      (privileged "pause" .isPublic g [] [.eval (.call "_pause" [])]) [] t =
        calling (L.callee c sender timestamp) "_pause" [] t :=
    Statement.execAll_singleton _
  rw [perform, hinvoked, result_calling]
  simp [callee]

/-- An account of a token is put on the blacklist or taken from it. -/
theorem perform_setBlacklisted (h : c.hasSecurity .blacklist = true) (sender : Address)
    (timestamp : Word) (g : Guard) (a : Address) (b : Bool) :
    L.perform c sender timestamp (.call (setBlacklisted g) [.account a, .bool b]) t =
      .ok { t with flagEntry := Function.update t.flagEntry "_blacklisted"
                    (Function.update (t.flagEntry "_blacklisted") a b) } := by
  let f : Frame := ⟨c.contract.declarations,
    [("account", .account a), ("blacklisted", .bool b)], sender, timestamp⟩
  have haccount : ∀ t, (Expression.name "account").eval f t = .ok (.account a) := fun _ => by
    simp [Expression.eval, Frame.read, f]
  have hvalue : ∀ t, (Expression.name "blacklisted").eval f t = .ok (.bool b) := fun _ => by
    simp [Expression.eval, Frame.read, f, List.lookup_cons]
  have hentry : privateMapping "_blacklisted" .bool ∈ blacklistState.flatten := by
    simp [blacklistState]
  have hfound : f.declared? "_blacklisted" = some (privateMapping "_blacklisted" .bool) :=
    declared?_of_declares (.blacklist h) hentry rfl
  have hexec : Statement.execAll (L.callee c sender timestamp) f t
      (setEntry "_blacklisted" "BlacklistUpdated" "blacklisted") = quiet (.goesOn
        { t with flagEntry := Function.update t.flagEntry "_blacklisted"
                  (Function.update (t.flagEntry "_blacklisted") a b) }) := by
    simp only [setEntry, Statement.execAll, Statement.exec, Expression.evalAll, hvalue, haccount,
      needing_ok, Frame.assign, Frame.storeEntry, hfound, andThen_goesOn]
    rfl
  exact congrArg result hexec

/-- A token without supply that is paused and has an account on its blacklist. -/
theorem exists_reachable_paused {g : Guard} (hd : d.Accepted c) (hguarded : c.isGuarded = true)
    (hpause : c.has .pause = true) (hblacklist : c.hasSecurity .blacklist = true)
    (hguard : ∀ role, guard c.accessControl role = some g)
    (hzero : c.initialSupply.baseUnits = 0) (hdeployer : deployer ≠ 0) (a : Address) :
    ∃ t, (plain (c.maxSupply.map (·.baseUnits)) deployer).Reachable c deployer t ∧
      t.paused = true ∧ t.flagEntry "_blacklisted" a = true ∧ t.supply = 0 := by
  have hL := documented_plain (c.maxSupply.map (·.baseUnits)) deployer
  have hoffered {f : Function} {args : List Value} (hf : Emits c f)
      (hvisible : f.visibility ≠ .isInternal) :
      (plain (c.maxSupply.map (·.baseUnits)) deployer).Offered c deployer (.call f args) :=
    .call (mem_functions_iff.mpr hf) hvisible fun _ _ => rfl
  obtain ⟨t, ht⟩ := exists_initialMint hL hd hdeployer
  have hfresh := fresh_welcomed hL hd hdeployer ht
  have hpaused : (plain (c.maxSupply.map (·.baseUnits)) deployer).Reachable c deployer
      { welcomed c deployer t with paused := true } := by
    have hconstructed := Reachable.constructed (construct_eq hL hd hguarded hdeployer ht 0).1
    refine hconstructed.performed (hoffered (.pausing hpause (hguard _) List.mem_cons_self) nofun)
      ((perform_pause deployer 0 g).trans ?_)
    exact if_neg (ne_true_of_eq_false hfresh.running)
  have hlisted := hpaused.performed (hoffered (.setBlacklisted hblacklist (hguard _)) nofun)
    (perform_setBlacklisted hblacklist deployer 0 g a true)
  exact ⟨_, hlisted, rfl, by simp, BitVec.eq_of_toNat_eq (hfresh.supply.trans hzero)⟩

/-- The owner of this token mints to an account on the blacklist while the token is paused. -/
theorem bypass_unissuedDraft : ∃ c, unissuedDraft.validate = .ok c ∧ c.isGuarded = true ∧
    ∃ L : Library, L.Documented (c.maxSupply.map (·.baseUnits)) ∧ ∃ t t', L.Reachable c 1 t ∧
      t.paused = true ∧ t.flagEntry "_blacklisted" 5 = true ∧
      L.Offered c 1 (.call (mintFunction .onlyOwner) [.account 5, .word 7]) ∧
      L.TakesBypass c 1 0 (.call (mintFunction .onlyOwner) [.account 5, .word 7]) t ∧
      L.perform c 1 0 (.call (mintFunction .onlyOwner) [.account 5, .word 7]) t = .ok t' := by
  have hchosen : unissuedDraft.validate.toOption.any (fun c => c.isGuarded && c.has .mint
      && c.has .pause && c.hasSecurity .blacklist && c.accessControl == .ownable
      && c.initialSupply.baseUnits == 0 && c.maxSupply.isNone) = true := by
    decide +kernel
  obtain ⟨c, hc, hp⟩ := Draft.exists_of_validate hchosen
  simp only [Bool.and_eq_true, beq_iff_eq, Option.isNone_iff_eq_none] at hp
  obtain ⟨⟨⟨⟨⟨⟨hguarded, hmint⟩, hpause⟩, hblacklist⟩, haccess⟩, hzero⟩, hcap⟩ := hp
  have hd := Draft.validate_eq_ok_iff.mp hc
  have hL := documented_plain (c.maxSupply.map (·.baseUnits)) 1
  have hguard : ∀ role, guard c.accessControl role = some .onlyOwner := fun role => by
    rw [haccess]
    rfl
  have hnocap : ∀ n, c.maxSupply.map (·.baseUnits) = some n → (7 : Word).toNat ≤ n := by
    rw [hcap]
    rintro n ⟨⟩
  have hdeployer : (1 : Address) ≠ 0 := by decide
  have hpayee : (5 : Address) ≠ 0 := by decide
  obtain ⟨t, hreachable, hpaused, hlisted, hsupply⟩ :=
    exists_reachable_paused hd hguarded hpause hblacklist hguard hzero hdeployer 5
  obtain ⟨t', hminted⟩ := perform_mint hL hd hguarded hpayee hsupply hnocap 1 0 .onlyOwner
  have hoffered : (plain (c.maxSupply.map (·.baseUnits)) 1).Offered c 1
      (.call (mintFunction .onlyOwner) [.account 5, .word 7]) :=
    .call (mem_functions_iff.mpr (.mint hmint (hguard _))) nofun fun _ _ => rfl
  exact ⟨c, hc, hguarded, _, hL, t, t', hreachable, hpaused, hlisted, hoffered,
    takesBypass_mint hL hguarded hpayee 7 hsupply, hminted⟩

end TokenLaunch
