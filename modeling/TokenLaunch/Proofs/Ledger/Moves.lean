import TokenLaunch.Proofs.Ledger.Hook
import TokenLaunch.Proofs.Ledger.Library

/-!
# Moves of a guarded token

A guarded token makes a move where its hook lets it pass.  Its functions make moves only by minting,
and leave no less supply than there was.
-/

namespace TokenLaunch

open Solidity Synthesis

variable {L : Library} {c : TokenConfig} {d : Draft} {cap : Option Nat} {sender : Address}
  {timestamp : Word} {m : Move} {t t' : Token}

/-! ## Moves -/

@[simp]
theorem supply_traded : (t.traded c timestamp m).supply = t.supply := by
  unfold Token.traded
  split <;> rfl

/-- A guarded token makes the moves that are unguarded or permitted. -/
theorem Library.move_eq_ok_iff (hd : d.Accepted c) (hguarded : c.isGuarded = true) :
    L.move c sender timestamp m t = .ok t' ↔ (Unguarded c m t ∨ Permitted c timestamp m t) ∧
      L.update m (t.traded c timestamp m) = .ok t' := by
  have hfound : c.contract.functions.find? (·.name = "_update") = some (hookFunction c) := by
    rw [← List.head?_filter]
    change ((functions c).filter (·.name = "_update")).head? = _
    rw [filter_functions_hook, if_pos (by simp [hguarded]), List.head?_cons]
  have hobeys : Obeys c L.passing timestamp m t ((hookFunction c).invoke L.passing
      c.contract.declarations sender timestamp m.values t) :=
    obeys_hookBody hd L.passing sender timestamp m t
  simp only [Library.move, hfound]
  by_cases h : Unguarded c m t ∨ Permitted c timestamp m t
  · rw [(hobeys.passes h).2]
    exact (and_iff_right h).symm
  · obtain ⟨-, e, -, he⟩ := hobeys.stops h
    rw [he]
    exact ⟨fun heq => (nomatch heq), fun ⟨hpasses, _⟩ => absurd hpasses h⟩

theorem Library.moving_eq_ok_iff {m : Except Fault Move} :
    L.moving c sender timestamp m t = .ok t' ↔
      ∃ m', m = .ok m' ∧ L.move c sender timestamp m' t = .ok t' := by
  cases m with
  | ok m => simp [Library.moving]
  | error e => simp [Library.moving]

/-! ## The supply -/

/-- The supply is not less than before. -/
def Grows (t t' : Token) : Prop := t.supply ≤ t'.supply

theorem stable_grows : Stable Grows where
  refl t := BitVec.le_refl t.supply
  trans := BitVec.le_trans
  assigned h := by
    unfold Grows
    rw [h.supply]
    exact BitVec.le_refl _

/-- What a token calls for its effect never takes away from the supply. -/
theorem Library.grows_callee (hL : L.Documented cap) (hd : d.Accepted c)
    (hguarded : c.isGuarded = true) (sender : Address) (timestamp : Word) (g : String)
    (vs : List Value) (t t' : Token) (h : L.callee c sender timestamp g vs t = .ok t') :
    Grows t t' := by
  unfold Library.callee at h
  split_ifs at h
  · split at h
    · obtain ⟨m, hm, hmove⟩ := moving_eq_ok_iff.mp h
      obtain ⟨hpayee, rfl⟩ := hL.minting.mp hm
      obtain ⟨-, hupdate⟩ := (move_eq_ok_iff hd hguarded).mp hmove
      have hminted := (hL.minted rfl hpayee hupdate).1
      rw [supply_traded] at hminted
      rw [Grows, BitVec.le_def, hminted]
      exact Nat.le_add_right _ _
    · cases h
  · rw [hL.paused h]
    exact stable_grows.refl t
  · rw [hL.unpaused h]
    exact stable_grows.refl t
  · split at h
    · rw [hL.granted] at h
      cases h
      exact stable_grows.refl t
    · cases h

/-- A function of a token calls what stands in its body, and leaves no less supply. -/
theorem Library.keeps_invoked (hL : L.Documented cap) (hd : d.Accepted c)
    (hguarded : c.isGuarded = true) (f : Function) (args : List Value) (t : Token) :
    Keeps Grows (L.callee c sender timestamp) (Statement.calledAll f.body) t
      (L.invoked c sender timestamp f args t) :=
  Statement.keeps_execAll stable_grows (grows_callee hL hd hguarded sender timestamp) _ t
    f.body fun _ hg => hg

/-! ## What is asked for -/

theorem Library.mem_asked {r : Run} (h : (m, t') ∈ L.asked r) :
    ∃ payee value, ⟨"_mint", [.account payee, .word value], t'⟩ ∈ r.calls ∧
      L.minting payee value = .ok m := by
  obtain ⟨⟨g, vs, found⟩, hk, hasked⟩ := List.mem_filterMap.mp h
  obtain ⟨m', hm', heq⟩ := Option.map_eq_some_iff.mp hasked
  obtain ⟨rfl, rfl⟩ := Prod.mk.inj heq
  unfold Library.asked? at hm'
  split_ifs at hm' with hmint
  split at hm'
  · rename_i payee value hvs
    cases hmint
    cases hvs
    exact ⟨payee, value, hk, toOption_eq_some_iff.mp hm'⟩
  · cases hm'

theorem Library.asked_eq_nil {r : Run} (h : ∀ k ∈ r.calls, k.function ≠ "_mint") :
    L.asked r = [] := by
  refine List.filterMap_eq_nil_iff.mpr fun k hk => ?_
  rw [Library.asked?, if_neg (h k hk), Option.map_none]

theorem Library.asked_andThen {calls : List Call} {next : Token → Run} :
    L.asked ((⟨calls, .goesOn t⟩ : Run).andThen next) =
      L.asked ⟨calls, .goesOn t⟩ ++ L.asked (next t) :=
  List.filterMap_append

/-- A move that an operation asks for is made in the end, or the operation fails. -/
theorem Library.passes_of_perform (hL : L.Documented cap) (hd : d.Accepted c)
    (hguarded : c.isGuarded = true) {o : Operation} {t'' : Token}
    (hasks : (m, t') ∈ L.asks c sender timestamp o t)
    (h : L.perform c sender timestamp o t = .ok t'') :
    Unguarded c m t' ∨ Permitted c timestamp m t' := by
  have hmove {m' : Except Fault Move} (hmem : (m, t') ∈ m'.toOption.toList.map (·, t))
      (hmoving : L.moving c sender timestamp m' t = .ok t'') :
      Unguarded c m t' ∨ Permitted c timestamp m t' := by
    obtain ⟨m', rfl, hmove⟩ := moving_eq_ok_iff.mp hmoving
    obtain ⟨rfl, rfl⟩ : m = m' ∧ t' = t := by simpa [Except.toOption] using hmem
    exact ((move_eq_ok_iff hd hguarded).mp hmove).1
  cases o with
  | transfer payer payee value => exact hmove hasks h
  | burn payer value => exact hmove hasks h
  | call f args =>
    obtain ⟨payee, value, hk, hm⟩ := mem_asked hasks
    -- a function that succeeds has had no call fail
    obtain ⟨t₁, hcall⟩ := (keeps_invoked hL hd hguarded f args t).made t'' h _ hk
    rw [Library.callee, if_pos rfl] at hcall
    obtain ⟨m', hm', hmove⟩ := moving_eq_ok_iff.mp hcall
    cases hm.symm.trans hm'
    exact ((move_eq_ok_iff hd hguarded).mp hmove).1

/-- One function alone mints when it is called from outside. -/
theorem Synthesis.Emits.eq_mintFunction {f : Function} (hf : Emits c f)
    (hvisible : f.visibility ≠ .isInternal) (hmint : "_mint" ∈ Statement.calledAll f.body) :
    c.has .mint = true ∧ ∃ g, guard c.accessControl minterRole = some g ∧ f = mintFunction g := by
  have hnone : "_mint" ∉ ([] : List String) := List.not_mem_nil
  have hpausing : "_mint" ∉ ["_pause"] ∧ "_mint" ∉ ["_unpause"] := by decide
  cases hf with
  | mint h hg => exact ⟨h, _, hg, rfl⟩
  | hook => exact absurd rfl hvisible
  | pausing _ _ hf =>
    simp only [pauseFunctions, List.mem_cons, List.not_mem_nil, or_false] at hf
    rcases hf with rfl | rfl
    · exact absurd hmint hpausing.1
    · exact absurd hmint hpausing.2
  | decimals | setAntiWhaleLimits | setTradingCooldown | setBlacklisted | isBlacklisted
  | setAllowlisted | setAllowlistEnabled | isAllowlisted => exact absurd hmint hnone

end TokenLaunch
