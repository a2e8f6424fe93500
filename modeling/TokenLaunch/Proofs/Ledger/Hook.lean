import TokenLaunch.Proofs.Ledger.Policy
import TokenLaunch.Proofs.Scale
import TokenLaunch.Proofs.Source.Functions

/-!
# The hook of an accepted draft

A generated source has one hook of transfers where a cap, a pause or a guard is chosen and none
otherwise, what stands in it is what is executed, and what is executed obeys the policy.
-/

namespace TokenLaunch

open Text SourceUnit Solidity

/-- The line that begins the hook; with a cap it names both bases whose hook it replaces. -/
def hookHead (capped : Bool) : String :=
  "    function _update(address from, address to, uint256 value) internal "
    ++ (if capped then "override(ERC20, ERC20Capped)" else "override") ++ " \x7b"

/-- A configuration whose source shows one hook exactly where something asks for it, with the body
that it executes, and whose hook obeys the policy in every state. -/
structure HookPolicy (c : TokenConfig) : Prop where
  heads : headsOf "_update" c.source =
    if c.isGuarded || c.has .pause || c.has .cap then [hookHead (c.has .cap)] else []
  body : ∀ f ∈ c.contract.functions, f.name = "_update" →
    linesBelow (hookHead (c.has .cap)) (pieces c.source) =
      (Statement.deeper (Statement.bodyLines f.body)).map indentLine
  obeys : ∀ f ∈ c.contract.functions, f.name = "_update" →
    ∀ callee sender timestamp m t, Obeys c callee timestamp m t
      (f.invoke callee c.contract.declarations sender timestamp m.values t)

namespace Synthesis

variable {c : TokenConfig} {f : Function}

theorem indentLine_headLine_hookFunction (c : TokenConfig) :
    indentLine (hookFunction c).headLine = hookHead (c.has .cap) := by
  simp only [Function.headLine, Function.qualifiers, hookFunction]
  generalize c.has .cap = capped
  cases capped <;> decide +kernel

/-- No other function has the name of the hook. -/
theorem mem_hook_of_name (hf : f ∈ functions c) (hname : f.name = "_update") : f ∈ hook c := by
  cases mem_functions_iff.mp hf with
  | hook h => exact mem_hook_iff.mpr ⟨h, rfl⟩
  | pausing _ _ hf =>
    simp only [pauseFunctions, List.mem_cons, List.not_mem_nil, or_false] at hf
    rcases hf with rfl | rfl <;> simp [privileged] at hname
  | decimals => simp [decimalsOverride] at hname
  | mint => simp [mintFunction, privileged] at hname
  | setAntiWhaleLimits => simp [setAntiWhaleLimits, privileged] at hname
  | setTradingCooldown => simp [setTradingCooldown, privileged] at hname
  | setBlacklisted => simp [setBlacklisted, privileged] at hname
  | isBlacklisted => simp [isBlacklisted, query] at hname
  | setAllowlisted => simp [setAllowlisted, privileged] at hname
  | setAllowlistEnabled => simp [setAllowlistEnabled, privileged] at hname
  | isAllowlisted => simp [isAllowlisted, query] at hname

theorem filter_functions_hook (c : TokenConfig) : (functions c).filter (·.name = "_update") =
    if c.isGuarded || c.has .pause || c.has .cap then [hookFunction c] else [] := by
  split
  · rename_i hchosen
    exact filter_eq_singleton_of_nodup (nodup_functions c) (mem_functions_iff.mpr (.hook hchosen))
  · rename_i hno
    rw [List.filter_eq_nil_iff]
    intro f hf hname
    exact hno (mem_hook_iff.mp (mem_hook_of_name hf (of_decide_eq_true hname))).1

end Synthesis

open Synthesis

/-- The source of an accepted draft shows one hook or none, and it obeys the policy. -/
theorem hookPolicy_of_validate {d : Draft} {c : TokenConfig} (h : d.validate = .ok c) :
    HookPolicy c := by
  have hd := Draft.validate_eq_ok_iff.mp h
  have hname := hd.isContractName
  refine ⟨?_, fun f hf hf' => ?_, fun f hf hf' callee sender timestamp m t => ?_⟩
  · rw [headsOf_source hname, filter_functions_hook, apply_ite (List.map _), List.map_singleton,
      indentLine_headLine_hookFunction, List.map_nil]
  · obtain ⟨-, rfl⟩ := mem_hook_iff.mp (mem_hook_of_name hf hf')
    rw [← indentLine_headLine_hookFunction, linesBelow_source hname hf]
  · obtain ⟨-, rfl⟩ := mem_hook_iff.mp (mem_hook_of_name hf hf')
    exact obeys_hookBody hd callee sender timestamp m t

/-- A draft with a cap, a pause and every guard. -/
def guardedDraft : Draft where
  network := "sepolia"
  tokenName := "Lead"
  tokenSymbol := "PB"
  decimals := "6"
  initialSupply := "100"
  maxSupply := some "1000"
  accessControl := "roles"
  accessManager := none
  standardFunctions := ["mint", "burn", "pause", "cap"]
  securityFunctions := ["antibot", "antiwhale", "blacklist", "allowlist"]
  taxFunctions := []
  upgradeability := "none"
  presaleType := "none"
  maxHolderLimit := some "50"
  maxTransactionAmount := some "5"
  tradingCooldown := some "60"

theorem hookPolicy_guardedDraft : ∃ c, guardedDraft.validate = .ok c ∧ c.has .cap = true ∧
    c.isGuarded = true ∧ HookPolicy c := by
  have hchosen :
      guardedDraft.validate.toOption.any (fun c => c.has .cap && c.isGuarded) = true := by
    decide +kernel
  obtain ⟨c, hc, hp⟩ := Draft.exists_of_validate hchosen
  obtain ⟨hcap, hguarded⟩ := Bool.and_eq_true_iff.mp hp
  exact ⟨c, hc, hcap, hguarded, hookPolicy_of_validate hc⟩

end TokenLaunch
