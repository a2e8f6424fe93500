import Mathlib.Tactic.Common
import TokenLaunch.Synthesis

/-!
# The functions of a token

When each function is part of the contract of a configuration.
-/

namespace TokenLaunch.Synthesis

open Solidity

/-- The function that takes the place of the decimals of the base. -/
def decimalsOverride (decimals : Nat) : Function where
  name := "decimals"
  params := []
  visibility := .isPublic
  purity := some .isPure
  guard := none
  overrides := some []
  returns := some (.uint 8)
  body := [.returnValue (.number decimals)]

/-- The hook of transfers. -/
def hookFunction (c : TokenConfig) : Function where
  name := "_update"
  params := [⟨.address, "from"⟩, ⟨.address, "to"⟩, ⟨.uint 256, "value"⟩]
  visibility := .isInternal
  purity := none
  guard := none
  overrides := some (if c.has .cap then [Base.erc20.name, Base.capped.name] else [])
  returns := none
  body := hookBody c

/-- The functions of a token, each with what it is there for. -/
inductive Emits (c : TokenConfig) : Function → Prop
  | decimals (h : c.decimals ≠ 18) : Emits c (decimalsOverride c.decimals)
  | mint {g : Guard} (h : c.has .mint) (hg : guard c.accessControl minterRole = some g) :
    Emits c (mintFunction g)
  | pausing {g : Guard} {f : Function} (h : c.has .pause)
      (hg : guard c.accessControl pauserRole = some g) (hf : f ∈ pauseFunctions g) : Emits c f
  | setAntiWhaleLimits {g : Guard} (h : c.antiWhale.isSome)
      (hg : guard c.accessControl adminRole = some g) : Emits c (setAntiWhaleLimits g)
  | setTradingCooldown {g : Guard} (h : c.tradingCooldown.isSome)
      (hg : guard c.accessControl adminRole = some g) : Emits c (setTradingCooldown g)
  | setBlacklisted {g : Guard} (h : c.hasSecurity .blacklist)
      (hg : guard c.accessControl adminRole = some g) : Emits c (setBlacklisted g)
  | isBlacklisted (h : c.hasSecurity .blacklist) : Emits c isBlacklisted
  | setAllowlisted {g : Guard} (h : c.hasSecurity .allowlist)
      (hg : guard c.accessControl adminRole = some g) : Emits c (setAllowlisted g)
  | setAllowlistEnabled {g : Guard} (h : c.hasSecurity .allowlist)
      (hg : guard c.accessControl adminRole = some g) : Emits c (setAllowlistEnabled g)
  | isAllowlisted (h : c.hasSecurity .allowlist) : Emits c isAllowlisted
  | hook (h : c.isGuarded || c.has .pause || c.has .cap) : Emits c (hookFunction c)

theorem mem_ite_nil {α : Type} {p : Prop} [Decidable p] {x : α} {l : List α} :
    x ∈ (if p then l else []) ↔ p ∧ x ∈ l := by
  split <;> simp_all

theorem ite_sublist {α : Type} {p : Prop} [Decidable p] {xs ys : List α} (h : xs.Sublist ys) :
    (if p then xs else []).Sublist ys := by
  split
  · exact h
  · exact List.nil_sublist ys

theorem mem_decimalsFunction_iff {c : TokenConfig} {f : Function} :
    f ∈ decimalsFunction c ↔ c.decimals ≠ 18 ∧ f = decimalsOverride c.decimals := by
  rw [decimalsFunction, ← ite_not, mem_ite_nil, List.mem_singleton]
  rfl

theorem mem_hook_iff {c : TokenConfig} {f : Function} :
    f ∈ hook c ↔ (c.isGuarded || c.has .pause || c.has .cap) ∧ f = hookFunction c := by
  rw [hook, mem_ite_nil, List.mem_singleton]
  rfl

theorem mem_functions_iff {c : TokenConfig} {f : Function} : f ∈ functions c ↔ Emits c f := by
  simp only [functions, mintFunctions, pausing, securityFunctions, List.mem_append, mem_ite_nil,
    mem_decimalsFunction_iff, mem_hook_iff, List.mem_map, List.mem_flatMap, Option.mem_toList,
    List.mem_singleton]
  constructor
  · rintro ((((⟨h, rfl⟩ | ⟨h, g, hg, rfl⟩) | ⟨h, g, hg, hf⟩) | hsecurity) | ⟨h, rfl⟩)
    · exact .decimals h
    · exact .mint h hg
    · exact .pausing h hg hf
    · rcases hsecurity with
        ((⟨h, g, hg, rfl⟩ | ⟨h, g, hg, rfl⟩) | ⟨h, ⟨g, hg, rfl⟩ | rfl⟩) |
          ⟨h, (⟨g, hg, rfl⟩ | ⟨g, hg, rfl⟩) | rfl⟩
      · exact .setAntiWhaleLimits h hg
      · exact .setTradingCooldown h hg
      · exact .setBlacklisted h hg
      · exact .isBlacklisted h
      · exact .setAllowlisted h hg
      · exact .setAllowlistEnabled h hg
      · exact .isAllowlisted h
    · exact .hook h
  · intro hf
    cases hf with
    | decimals h => exact .inl (.inl (.inl (.inl ⟨h, rfl⟩)))
    | mint h hg => exact .inl (.inl (.inl (.inr ⟨h, _, hg, rfl⟩)))
    | pausing h hg hf => exact .inl (.inl (.inr ⟨h, _, hg, hf⟩))
    | setAntiWhaleLimits h hg => exact .inl (.inr (.inl (.inl (.inl ⟨h, _, hg, rfl⟩))))
    | setTradingCooldown h hg => exact .inl (.inr (.inl (.inl (.inr ⟨h, _, hg, rfl⟩))))
    | setBlacklisted h hg => exact .inl (.inr (.inl (.inr ⟨h, .inl ⟨_, hg, rfl⟩⟩)))
    | isBlacklisted h => exact .inl (.inr (.inl (.inr ⟨h, .inr rfl⟩)))
    | setAllowlisted h hg => exact .inl (.inr (.inr ⟨h, .inl (.inl ⟨_, hg, rfl⟩)⟩))
    | setAllowlistEnabled h hg => exact .inl (.inr (.inr ⟨h, .inl (.inr ⟨_, hg, rfl⟩)⟩))
    | isAllowlisted h => exact .inl (.inr (.inr ⟨h, .inr rfl⟩))
    | hook h => exact .inr ⟨h, rfl⟩

end TokenLaunch.Synthesis
