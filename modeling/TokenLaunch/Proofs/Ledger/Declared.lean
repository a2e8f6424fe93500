import TokenLaunch.Proofs.Ledger.Execution
import TokenLaunch.Proofs.Source.Emitted

/-!
# What a token declares

The names that the state of a generated contract declares are all different, so that a name stands
for the one declaration of it.
-/

namespace TokenLaunch

open Solidity

/-- The declarations of a contract, in their order. -/
def Solidity.Contract.declarations (k : Contract) : List Declaration := k.state.flatten.flatten

/-- Where no two items have the same key, an item is the only one with its key. -/
theorem filter_eq_singleton_of_nodup {α β : Type} [DecidableEq β] {key : α → β} {xs : List α}
    {x : α} (hnodup : (xs.map key).Nodup) (hx : x ∈ xs) : xs.filter (key · = key x) = [x] := by
  induction xs with
  | nil => cases hx
  | cons y ys ih =>
    rw [List.map_cons, List.nodup_cons] at hnodup
    obtain ⟨hy, hys⟩ := hnodup
    rcases List.mem_cons.mp hx with rfl | hx
    · have hnone : ys.filter (key · = key x) = [] := by
        rw [List.filter_eq_nil_iff]
        exact fun z hz heq => hy (of_decide_eq_true heq ▸ List.mem_map_of_mem hz)
      rw [List.filter_cons_of_pos (by simp), hnone]
    · have hne : key y ≠ key x := fun heq => hy (heq ▸ List.mem_map_of_mem hx)
      rw [List.filter_cons_of_neg (by simpa using hne), ih hys hx]

theorem find?_eq_some_of_nodup {α β : Type} [DecidableEq β] {key : α → β} {xs : List α} {x : α}
    (hnodup : (xs.map key).Nodup) (hx : x ∈ xs) : xs.find? (key · = key x) = some x := by
  rw [← List.head?_filter, filter_eq_singleton_of_nodup hnodup hx, List.head?_cons]

namespace Synthesis

variable {c : TokenConfig}

/-- Every name that the state of a token may declare, in the order of declaration. -/
def declaredNames : List String :=
  [minterRole, pauserRole, "ANTI_WHALE_ENABLED", "maxTransactionAmount", "maxHolderLimit",
    "ANTI_BOT_ENABLED", "tradingCooldown", "_lastTradeTime", "_blacklisted", "BlacklistUpdated",
    "_allowlisted", "allowlistEnabled", "AllowlistUpdated", "AllowlistStatusChanged"]

theorem roles_sublist (c : TokenConfig) : (roles c).Sublist [minterRole, pauserRole] := by
  unfold roles
  split
  · exact (ite_sublist (List.Sublist.refl _)).append (ite_sublist (List.Sublist.refl _))
  · exact List.nil_sublist _

/-- The names in a block of state. -/
def blockNames (b : StateBlock) : List String := b.flatten.map Declaration.name

theorem map_name_declarations (c : TokenConfig) :
    c.contract.declarations.map Declaration.name = (state c).flatMap blockNames := by
  have hblock : (fun b : StateBlock => b.flatten.map Declaration.name) = blockNames := rfl
  simp only [Contract.declarations, TokenConfig.contract, List.flatten_flatten, List.map_flatten,
    List.map_map, List.flatMap, Function.comp_def, ← hblock]

theorem names_declarations_sublist (c : TokenConfig) :
    (c.contract.declarations.map Declaration.name).Sublist declaredNames := by
  have hroles : ((roles c).map roleConstant).flatMap blockNames = roles c := by
    have hrole : ∀ role, blockNames (roleConstant role) = [role] := fun _ => rfl
    simp [List.flatMap_map, hrole]
  have hwhale : (c.antiWhale.toList.map antiWhaleState).flatMap blockNames =
      if c.antiWhale.isSome then
        ["ANTI_WHALE_ENABLED", "maxTransactionAmount", "maxHolderLimit"] else [] := by
    cases c.antiWhale <;> rfl
  have hbot : (c.tradingCooldown.toList.map antiBotState).flatMap blockNames =
      if c.tradingCooldown.isSome then
        ["ANTI_BOT_ENABLED", "tradingCooldown", "_lastTradeTime"] else [] := by
    cases c.tradingCooldown <;> rfl
  have hblacklist : (if c.hasSecurity .blacklist then [blacklistState] else []).flatMap blockNames =
      if c.hasSecurity .blacklist then ["_blacklisted", "BlacklistUpdated"] else [] := by
    split <;> rfl
  have hallowlist : (if c.hasSecurity .allowlist then [allowlistState] else []).flatMap blockNames =
      if c.hasSecurity .allowlist then
        ["_allowlisted", "allowlistEnabled", "AllowlistUpdated", "AllowlistStatusChanged"]
      else [] := by
    split <;> rfl
  rw [map_name_declarations, state, List.flatMap_append, List.flatMap_append, List.flatMap_append,
    List.flatMap_append, hroles, hwhale, hbot, hblacklist, hallowlist]
  have hite {p : Prop} [Decidable p] (xs : List String) : (if p then xs else []).Sublist xs :=
    ite_sublist (List.Sublist.refl xs)
  exact ((((roles_sublist c).append (hite _)).append (hite _)).append (hite _)).append (hite _)

theorem nodup_declarations (c : TokenConfig) :
    (c.contract.declarations.map Declaration.name).Nodup := by
  have hnodup : declaredNames.Nodup := by decide
  exact hnodup.sublist (names_declarations_sublist c)

theorem mem_declarations_of_declares {b : StateBlock} {d : Declaration} (hb : Declares c b)
    (hd : d ∈ b.flatten) : d ∈ c.contract.declarations := by
  refine List.mem_flatten.mpr ?_
  obtain ⟨ds, hds, hd⟩ := List.mem_flatten.mp hd
  exact ⟨ds, List.mem_flatten.mpr ⟨b, mem_state_iff.mpr hb, hds⟩, hd⟩

/-- What a block declares is found by its name. -/
theorem declared?_of_declares {b : StateBlock} {d : Declaration} {f : Frame} (hb : Declares c b)
    (hd : d ∈ b.flatten) (hf : f.declarations = c.contract.declarations) :
    f.declared? d.name = some d := by
  rw [Frame.declared?, hf]
  exact find?_eq_some_of_nodup (nodup_declarations c) (mem_declarations_of_declares hb hd)

end Synthesis

end TokenLaunch
