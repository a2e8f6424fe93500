import TokenLaunch.Proofs.Ledger.Guards
import TokenLaunch.Proofs.Validation

/-!
# The policy of transfers

What the hook of a token lets pass, in every state of the token: the one bypass for a mint while
there is no supply, and else the guards that were chosen, each in its place.
-/

namespace TokenLaunch

open Solidity Solidity.Run

/-! ## The policy -/

/-- A mint of a guarded token while there is no supply. -/
def Unguarded (c : TokenConfig) (m : Move) (t : Token) : Prop :=
  c.isGuarded = true ∧ m.payer = 0 ∧ t.supply = 0

/-- What the limits ask of a transfer; the sum is that of numbers and may exceed a word. -/
def Limited (m : Move) (t : Token) : Prop :=
  m.value ≤ t.word "maxTransactionAmount" ∧
    (t.balance m.payee).toNat + m.value.toNat ≤ (t.word "maxHolderLimit").toNat

/-- What the cooldown asks of a transfer. -/
def Rested (timestamp : Word) (m : Move) (t : Token) : Prop :=
  (t.wordEntry "_lastTradeTime" m.payer).toNat + (t.word "tradingCooldown").toNat ≤ timestamp.toNat

instance (m : Move) (t : Token) : Decidable (Limited m t) := inferInstanceAs (Decidable (_ ∧ _))

/-- Every chosen guard lets a move pass. -/
structure Permitted (c : TokenConfig) (timestamp : Word) (m : Move) (t : Token) : Prop where
  running : c.has .pause = true → t.paused = false
  unlisted : c.hasSecurity .blacklist = true →
    t.flagEntry "_blacklisted" m.payer = false ∧ t.flagEntry "_blacklisted" m.payee = false
  listed : c.hasSecurity .allowlist = true → t.flag "allowlistEnabled" = true →
    t.flagEntry "_allowlisted" m.payer = true ∨ t.flagEntry "_allowlisted" m.payee = true
  limited : c.hasSecurity .antiWhale = true → m.payer ≠ 0 → m.payee ≠ 0 → Limited m t
  rested : c.hasSecurity .antiBot = true → m.payer ≠ 0 → m.payee ≠ 0 → Rested timestamp m t

/-- The state with a trade noted. -/
def Solidity.Token.noted (t : Token) (timestamp : Word) (m : Move) : Token :=
  { t with wordEntry := Function.update t.wordEntry "_lastTradeTime"
            (Function.update (t.wordEntry "_lastTradeTime") m.payer timestamp) }

/-- The state that the transfer itself finds: a trade is noted where trades have to rest. -/
def Solidity.Token.traded (t : Token) (c : TokenConfig) (timestamp : Word) (m : Move) : Token :=
  if c.hasSecurity .antiBot = true ∧ m.payer ≠ 0 ∧ m.payee ≠ 0 then t.noted timestamp m else t

/-- An execution of the hook: the transfer itself is reached once, in the noted state, where the
move is unguarded or permitted, and is not reached where not. -/
structure Obeys (c : TokenConfig) (callee : Callee) (timestamp : Word) (m : Move) (t : Token)
    (r : Run) : Prop where
  passes : Unguarded c m t ∨ Permitted c timestamp m t →
    r.calls = [⟨"super._update", m.values, t.traded c timestamp m⟩] ∧
      r.result = callee "super._update" m.values (t.traded c timestamp m)
  stops : ¬ (Unguarded c m t ∨ Permitted c timestamp m t) →
    r.calls = [] ∧ ∃ e, e ≠ .stuck ∧ r.result = .error e

namespace Synthesis

open Solidity.Expression

variable {c : TokenConfig} {sender : Address} {timestamp : Word} {m : Move} {t : Token}
  {callee : Callee}

/-! ## One guard after the other -/

theorem guards_running (callee : Callee) (f : Frame) (t : Token) :
    Guards (Statement.exec callee f t requireRunning) (t.paused = false) t := by
  have hpaused : (call "paused" []).eval f t = .ok (.bool t.paused) := rfl
  exact Guards.require_decide (eval_not hpaused)

theorem guards_blacklist (h : c.hasSecurity .blacklist = true) :
    Guards (Statement.exec callee (hookFrame c sender timestamp m) t requireNotBlacklisted)
      (t.flagEntry "_blacklisted" m.payer = false ∧ t.flagEntry "_blacklisted" m.payee = false)
      t := by
  have hentry : privateMapping "_blacklisted" .bool ∈ blacklistState.flatten := by
    simp [blacklistState]
  have hpayer := eval_flagEntry (.blacklist h) hentry (eval_from c sender timestamp m t)
  have hpayee := eval_flagEntry (.blacklist h) hentry (eval_to c sender timestamp m t)
  exact Guards.require_decide (eval_and (eval_not hpayer) (eval_not hpayee))

theorem guards_allowlist (h : c.hasSecurity .allowlist = true) :
    Guards (Statement.exec callee (hookFrame c sender timestamp m) t requireAllowlisted)
      (t.flag "allowlistEnabled" = true →
        t.flagEntry "_allowlisted" m.payer = true ∨ t.flagEntry "_allowlisted" m.payee = true)
      t := by
  have hentry : privateMapping "_allowlisted" .bool ∈ allowlistState.flatten := by
    simp [allowlistState]
  have hpayer := eval_flagEntry (.allowlist h) hentry (eval_from c sender timestamp m t)
  have hpayee := eval_flagEntry (.allowlist h) hentry (eval_to c sender timestamp m t)
  have hflag : Declaration.variable (.plain .bool) true false "allowlistEnabled"
      (some (.name "true")) ∈ allowlistState.flatten := by
    simp [allowlistState]
  have hfound : (hookFrame c sender timestamp m).declared? "allowlistEnabled" = some _ :=
    declared?_of_declares (.allowlist h) hflag rfl
  have henabled : (name "allowlistEnabled").eval (hookFrame c sender timestamp m) t =
      .ok (.bool (t.flag "allowlistEnabled")) := by
    rw [eval_variable (by decide), Frame.variableOf, hfound]
  have hlisted : Guards (Statement.exec callee (hookFrame c sender timestamp m) t (.require
      (.binary .or (.entry "_allowlisted" (.name "from")) (.entry "_allowlisted" (.name "to")))
      "Address is not allowlisted")) _ t :=
    Guards.require_decide (eval_or (eval_truth hpayer) (eval_truth hpayee))
  have hwhen := Guards.whenever (eval_truth henabled) fun _ => hlisted.single
  rwa [ite_self] at hwhen

theorem eval_limit {w : AntiWhale} {x : String} {n : Nat} (h : c.antiWhale = some w)
    (hd : wordVariable x n ∈ (antiWhaleState w).flatten)
    (hx : x ∉ ["from", "to", "value"] ++ Frame.reserved) :
    (name x).eval (hookFrame c sender timestamp m) t = .ok (.word (t.word x)) :=
  eval_wordVariable (.antiWhale h) hd hx

theorem guards_amount (callee : Callee) {w : AntiWhale} (h : c.antiWhale = some w) :
    Guards (Statement.exec callee (hookFrame c sender timestamp m) t (.require
      (.binary .atMost (.name "value") (.name "maxTransactionAmount"))
      "Transfer exceeds max transaction amount"))
      (m.value ≤ t.word "maxTransactionAmount") t := by
  have hlimit : (name "maxTransactionAmount").eval (hookFrame c sender timestamp m) t =
      .ok (.word (t.word "maxTransactionAmount")) :=
    eval_limit (n := w.maxTransactionAmount.baseUnits) h (by simp [antiWhaleState]) (by decide)
  refine Guards.require_decide ?_
  rw [eval_binary (by decide) (by decide), eval_value, hlimit]
  rfl

/-- The holding that is compared is the sum of balance and value, which has to fit a word. -/
theorem guards_holding (callee : Callee) {w : AntiWhale} (h : c.antiWhale = some w) :
    Guards (Statement.exec callee (hookFrame c sender timestamp m) t (.require
      (.binary .atMost (.binary .plus (.call "balanceOf" [.name "to"]) (.name "value"))
        (.name "maxHolderLimit"))
      "Recipient exceeds max holder limit"))
      ((t.balance m.payee).toNat + m.value.toNat ≤ (t.word "maxHolderLimit").toNat) t := by
  have hlimit : (name "maxHolderLimit").eval (hookFrame c sender timestamp m) t =
      .ok (.word (t.word "maxHolderLimit")) :=
    eval_limit (n := w.maxHolderLimit.baseUnits) h (by simp [antiWhaleState]) (by decide)
  have hbalance : (call "balanceOf" [.name "to"]).eval (hookFrame c sender timestamp m) t =
      .ok (.word (t.balance m.payee)) := by
    rw [eval, evalAll, evalAll, eval_to]
    rfl
  refine guards_sumAtMost ?_
  rw [eval_binary (by decide) (by decide),
    eval_plus hbalance (eval_value c sender timestamp m t), hlimit, combine_sum_atMost]

theorem guards_limits {w : AntiWhale} (h : c.antiWhale = some w) :
    Guards (Statement.exec callee (hookFrame c sender timestamp m) t requireLimits)
      (Limited m t) t := by
  have henabled : (name "ANTI_WHALE_ENABLED").eval (hookFrame c sender timestamp m) t =
      .ok (.bool (decide True)) :=
    eval_enabledFlag (.antiWhale h) (by simp [antiWhaleState]) (by decide)
  have hwhen := Guards.whenever henabled fun _ =>
    (guards_amount callee h).cons (guards_holding callee h).single
  exact hwhen.congr ⟨fun hp => hp trivial, fun hp _ => hp⟩

theorem lastTradeTime_mem_antiBotState (cooldown : Nat) :
    privateMapping "_lastTradeTime" (.uint 256) ∈ (antiBotState cooldown).flatten := by
  simp [antiBotState]

/-- The cooldown compares the time with a sum of words. -/
theorem guards_rested (callee : Callee) {cooldown : Nat} (h : c.tradingCooldown = some cooldown) :
    Guards (Statement.exec callee (hookFrame c sender timestamp m) t (.require
      (.binary .atLeast (.name "block.timestamp")
        (.binary .plus (.entry "_lastTradeTime" (.name "from")) (.name "tradingCooldown")))
      "Trading cooldown active")) (Rested timestamp m t) t := by
  have hcooldown : (name "tradingCooldown").eval (hookFrame c sender timestamp m) t =
      .ok (.word (t.word "tradingCooldown")) :=
    eval_wordVariable (n := cooldown) (.antiBot h) (by simp [antiBotState]) (by decide)
  have hlast := eval_wordEntry (.antiBot h) (lastTradeTime_mem_antiBotState cooldown)
    (eval_from c sender timestamp m t)
  refine guards_sumAtMost ?_
  rw [eval_binary (by decide) (by decide), eval_plus hlast hcooldown, eval_timestamp,
    combine_atLeast_sum]

/-- The time of a trade is noted for its payer. -/
theorem exec_note (callee : Callee) {cooldown : Nat} (h : c.tradingCooldown = some cooldown) :
    Statement.exec callee (hookFrame c sender timestamp m) t
      (.assign (.entry "_lastTradeTime" (.name "from")) (.name "block.timestamp")) =
        quiet (.goesOn (t.noted timestamp m)) := by
  have hfound : (hookFrame c sender timestamp m).declared? "_lastTradeTime" = some _ :=
    declared?_of_declares (.antiBot h) (lastTradeTime_mem_antiBotState cooldown) rfl
  rw [Statement.exec, eval_timestamp, needing_ok, Frame.assign, eval_from]
  simp only [Frame.storeEntry, hfound]
  rfl

theorem guards_cooldown {cooldown : Nat} (h : c.tradingCooldown = some cooldown) :
    Guards (Statement.exec callee (hookFrame c sender timestamp m) t requireCooldown)
      (Rested timestamp m t) (t.noted timestamp m) := by
  have henabled : (name "ANTI_BOT_ENABLED").eval (hookFrame c sender timestamp m) t =
      .ok (.bool (decide True)) :=
    eval_enabledFlag (.antiBot h) (by simp [antiBotState]) (by decide)
  have hwhen := Guards.whenever henabled fun _ =>
    (guards_rested callee h).cons (Guards.single (exec_note callee h ▸ Guards.goesOn))
  rw [if_pos trivial] at hwhen
  exact hwhen.congr ⟨fun hp => (hp trivial).1, fun hp _ => ⟨hp, trivial⟩⟩

/-! ## The hook -/

theorem guards_betweenHolders {d : Draft} (hd : d.Accepted c) :
    Guards (Statement.execAll callee (hookFrame c sender timestamp m) t (betweenHolders c))
      (m.payer ≠ 0 ∧ m.payee ≠ 0 → (c.hasSecurity .antiWhale = true → Limited m t) ∧
        (c.hasSecurity .antiBot = true → Rested timestamp m t))
      (t.traded c timestamp m) := by
  rw [Token.traded, ← hd.isSome_antiWhale, ← hd.isSome_tradingCooldown]
  have hlimits : Guards (Statement.execAll callee (hookFrame c sender timestamp m) t
      (if c.antiWhale.isSome then [requireLimits] else [])) _ t :=
    Guards.optional fun hw => (guards_limits (Option.eq_some_of_isSome hw)).single
  have hcooldown : Guards (Statement.execAll callee (hookFrame c sender timestamp m) t
      (if c.tradingCooldown.isSome then [requireCooldown] else [])) _ _ :=
    Guards.chosen fun hc => (guards_cooldown (Option.eq_some_of_isSome hc)).single
  have hholders := Guards.whenever
    (eval_and (eval_isNotZero (eval_from c sender timestamp m t))
      (eval_isNotZero (eval_to c sender timestamp m t))) fun _ => hlimits.append hcooldown
  unfold betweenHolders
  extract_lets guards
  split
  · rename_i hempty
    have hnone : c.antiWhale.isSome = false ∧ c.tradingCooldown.isSome = false := by
      simpa [guards] using hempty
    rw [if_neg (by simp [hnone.2])]
    exact Guards.goesOn.congr (by simp [hnone])
  · have hstate : (if m.payer ≠ 0 ∧ m.payee ≠ 0 then
        (if c.tradingCooldown.isSome = true then t.noted timestamp m else t) else t) =
          if c.tradingCooldown.isSome = true ∧ m.payer ≠ 0 ∧ m.payee ≠ 0 then
            t.noted timestamp m else t := by
      by_cases h : c.tradingCooldown.isSome = true <;> simp [h]
    rw [hstate] at hholders
    exact hholders.single

/-- What stands between the bypass and the transfer itself. -/
def checks (c : TokenConfig) : List Statement :=
  (if c.has .pause then [requireRunning] else [])
    ++ (if c.hasSecurity .blacklist then [requireNotBlacklisted] else [])
    ++ (if c.hasSecurity .allowlist then [requireAllowlisted] else [])
    ++ betweenHolders c

theorem hookBody_eq (c : TokenConfig) :
    hookBody c = (if c.isGuarded then [bypass] else []) ++ (checks c ++ [passOn]) := by
  simp only [hookBody, checks, List.append_assoc]

/-- All that stands between the bypass and the transfer is one guard, the policy. -/
theorem guards_checks {d : Draft} (hd : d.Accepted c) :
    Guards (Statement.execAll callee (hookFrame c sender timestamp m) t (checks c))
      (Permitted c timestamp m t) (t.traded c timestamp m) := by
  have hrunning : Guards (Statement.execAll callee (hookFrame c sender timestamp m) t
      (if c.has .pause then [requireRunning] else [])) _ t :=
    Guards.optional fun _ => (guards_running callee _ t).single
  have hblacklist : Guards (Statement.execAll callee (hookFrame c sender timestamp m) t
      (if c.hasSecurity .blacklist then [requireNotBlacklisted] else [])) _ t :=
    Guards.optional fun h => (guards_blacklist h).single
  have hallowlist : Guards (Statement.execAll callee (hookFrame c sender timestamp m) t
      (if c.hasSecurity .allowlist then [requireAllowlisted] else [])) _ t :=
    Guards.optional fun h => (guards_allowlist h).single
  have hholders : Guards (Statement.execAll callee (hookFrame c sender timestamp m) t
      (betweenHolders c)) _ _ := guards_betweenHolders hd
  refine (((hrunning.append hblacklist).append hallowlist).append hholders).congr ⟨?_, ?_⟩
  · rintro ⟨⟨⟨hrunning, hblacklist⟩, hallowlist⟩, hholders⟩
    exact ⟨hrunning, hblacklist, hallowlist, fun h hpayer hpayee => (hholders ⟨hpayer, hpayee⟩).1 h,
      fun h hpayer hpayee => (hholders ⟨hpayer, hpayee⟩).2 h⟩
  · rintro ⟨hrunning, hblacklist, hallowlist, hlimits, hcooldown⟩
    exact ⟨⟨⟨hrunning, hblacklist⟩, hallowlist⟩, fun ⟨hpayer, hpayee⟩ =>
      ⟨fun h => hlimits h hpayer hpayee, fun h => hcooldown h hpayer hpayee⟩⟩

theorem exec_passOn (callee : Callee) (c : TokenConfig) (sender : Address) (timestamp : Word)
    (m : Move) (t : Token) : Statement.exec callee (hookFrame c sender timestamp m) t passOn =
      calling callee "super._update" m.values t := by
  have hargs : evalAll (hookFrame c sender timestamp m) t
      [.name "from", .name "to", .name "value"] = .ok m.values := by
    simp only [evalAll, eval_from, eval_to, eval_value]
    rfl
  rw [passOn, Statement.exec, hargs, needing_ok]

/-- The condition of the bypass. -/
theorem eval_bypass (c : TokenConfig) (sender : Address) (timestamp : Word) (m : Move)
    (t : Token) :
    (binary .and (isZero "from") (.binary .equal (.call "totalSupply" []) (.number 0))).eval
      (hookFrame c sender timestamp m) t =
        .ok (.bool (decide (m.payer = 0 ∧ t.supply = 0))) := by
  have hsupply : (call "totalSupply" []).eval (hookFrame c sender timestamp m) t =
      .ok (.word t.supply) := rfl
  have hzero : (number 0).eval (hookFrame c sender timestamp m) t = .ok (.word 0) := by
    rw [eval, Frame.literal, if_pos (Nat.two_pow_pos 256)]
    rfl
  have hnone : (binary .equal (.call "totalSupply" []) (.number 0)).eval
      (hookFrame c sender timestamp m) t = .ok (.bool (decide (t.supply = 0))) := by
    rw [eval_binary (by decide) (by decide), hsupply, hzero]
    rfl
  exact eval_and (eval_isZero (eval_from c sender timestamp m t)) hnone

theorem traded_of_payer {c : TokenConfig} (h : m.payer = 0) : t.traded c timestamp m = t := by
  rw [Token.traded, if_neg]
  exact fun hno => hno.2.1 h

/-- The bypass makes the transfer and leaves the hook. -/
theorem exec_bypass_of_initial (callee : Callee) (c : TokenConfig) (sender : Address)
    (timestamp : Word) (h : m.payer = 0 ∧ t.supply = 0) :
    Statement.exec callee (hookFrame c sender timestamp m) t bypass =
      (calling callee "super._update" m.values t).andThen fun t' => quiet (.leaves t') := by
  rw [bypass, Statement.exec, eval_bypass, decide_eq_true h]
  simp only [truth, needing_ok, if_true, Statement.execAll, exec_passOn]
  rfl

theorem exec_bypass_of_not_initial (callee : Callee) (c : TokenConfig) (sender : Address)
    (timestamp : Word) (h : ¬ (m.payer = 0 ∧ t.supply = 0)) :
    Statement.exec callee (hookFrame c sender timestamp m) t bypass = quiet (.goesOn t) := by
  rw [bypass, Statement.exec, eval_bypass, decide_eq_false h]
  rfl

theorem execAll_opening_of_not_unguarded (callee : Callee) (sender : Address) (timestamp : Word)
    (h : ¬ Unguarded c m t) : Statement.execAll callee (hookFrame c sender timestamp m) t
      (if c.isGuarded then [bypass] else []) = quiet (.goesOn t) := by
  split
  · rename_i hguarded
    rw [Statement.execAll_singleton]
    exact exec_bypass_of_not_initial callee c sender timestamp fun hinitial =>
      h ⟨hguarded, hinitial⟩
  · rfl

/-- The hook obeys the policy. -/
theorem obeys_hookBody {d : Draft} (hd : d.Accepted c) (callee : Callee) (sender : Address)
    (timestamp : Word) (m : Move) (t : Token) :
    Obeys c callee timestamp m t
      (Statement.execAll callee (hookFrame c sender timestamp m) t (hookBody c)) := by
  rw [hookBody_eq, Statement.execAll_append]
  by_cases hunguarded : Unguarded c m t
  · -- the payer of a mint is the zero address, so no trade is noted
    obtain ⟨hguarded, hinitial⟩ := hunguarded
    rw [if_pos hguarded, Statement.execAll_singleton,
      exec_bypass_of_initial callee c sender timestamp hinitial]
    refine ⟨fun _ => ?_, fun h => absurd (.inl ⟨hguarded, hinitial⟩) h⟩
    rw [traded_of_payer hinitial.1]
    exact calls_calling_leaves callee "super._update" m.values t _
  · rw [execAll_opening_of_not_unguarded callee sender timestamp hunguarded, andThen_goesOn,
      Statement.execAll_append]
    have hchecks : Guards (Statement.execAll callee (hookFrame c sender timestamp m) t (checks c))
      _ _ := guards_checks hd
    refine ⟨fun h => ?_, fun h => ?_⟩
    · rw [hchecks.passes (h.resolve_left hunguarded), andThen_goesOn, Statement.execAll_singleton,
        exec_passOn]
      exact ⟨rfl, result_calling _ _ _ _⟩
    · obtain ⟨e, he, hfails⟩ := hchecks.stops fun hpermitted => h (.inr hpermitted)
      rw [hfails, andThen_fails]
      exact ⟨rfl, e, he, rfl⟩

end Synthesis

end TokenLaunch
