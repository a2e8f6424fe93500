import TokenLaunch.Proofs.Scale
import TokenLaunch.Proofs.Source.Bases

/-!
# A contract that inherits from itself

The name of a contract has no small letters, and of the bases only the token itself has a name
without them: a token name that is reduced to it gives a contract of that name, which names itself
as a base.
-/

namespace TokenLaunch

open Text Synthesis

/-- What the name of a contract is made of: the letters and digits of the token name from the first
letter on, in upper case. -/
def reduced (tokenName : String) : List Char :=
  ((tokenName.toList.filter isPlain).dropWhile Char.isDigit).map Char.toUpper

theorem contractIdentifier?_eq_some_iff {s name : String} (hname : name ≠ "") :
    contractIdentifier? s = some name ↔ reduced s = name.toList := by
  unfold contractIdentifier? reduced
  split
  · rename_i hnil
    have hchars : [] ≠ name.toList := fun heq => hname (String.toList_eq_nil_iff.mp heq.symm)
    rw [hnil, List.map_nil, iff_false_right hchars]
    nofun
  · rw [Option.some.injEq, ← String.toList_inj, String.toList_ofList]

/-- Every base but the token itself has a small letter in its name. -/
theorem Synthesis.Base.eq_erc20_of_isContractName {b : Base} (h : IsContractName b.name) :
    b = .erc20 := by
  have hsmall {x : Char} (hupper : x.isUpper = false) (hdigit : x.isDigit = false)
      (hmem : x ∈ b.name.toList) : False :=
    h.notMem hupper hdigit hmem
  cases b with
  | erc20 => rfl
  | ownable => exact (hsmall (x := 'w') rfl rfl (by decide)).elim
  | accessControl => exact (hsmall (x := 'c') rfl rfl (by decide)).elim
  | accessManaged => exact (hsmall (x := 'c') rfl rfl (by decide)).elim
  | burnable => exact (hsmall (x := 'u') rfl rfl (by decide)).elim
  | pausable => exact (hsmall (x := 'a') rfl rfl (by decide)).elim
  | capped => exact (hsmall (x := 'a') rfl rfl (by decide)).elim

/-- The source of an accepted draft declares a contract that is a base of itself exactly where the
token name is reduced to the name of the token base. -/
theorem inheritsItself_iff {d : Draft} {c : TokenConfig} (h : d.validate = .ok c) :
    (∃ name ∈ contractNames c.source, name ∈ baseNames c.source) ↔
      reduced c.tokenName = "ERC20".toList := by
  have hd := Draft.validate_eq_ok_iff.mp h
  have hname := hd.isContractName
  have hcontract := Draft.checkContractName_eq_ok_iff.mp hd.contractName
  have hself : (∃ name ∈ contractNames c.source, name ∈ baseNames c.source) ↔
      ∃ b ∈ bases c, b.name = c.contractName := by
    simp [contractNames_source hname, baseNames_source hname]
  rw [hself, ← contractIdentifier?_eq_some_iff (by decide), hcontract, Option.some.injEq]
  constructor
  · rintro ⟨b, -, hb⟩
    rw [← hb] at hname ⊢
    rw [Base.eq_erc20_of_isContractName hname]
    rfl
  · intro heq
    exact ⟨.erc20, List.mem_cons_self, heq.symm⟩

/-- A token that is called otherwise is no base of itself. -/
theorem inheritsItself_iff_cappedDraft : ∃ c, cappedDraft.validate = .ok c ∧
    ¬ ∃ name ∈ contractNames c.source, name ∈ baseNames c.source := by
  have hchosen : cappedDraft.validate.toOption.any
      (fun c => reduced c.tokenName != "ERC20".toList) = true := by
    decide +kernel
  obtain ⟨c, hc, hne⟩ := Draft.exists_of_validate hchosen
  exact ⟨c, hc, fun hself => bne_iff_ne.mp hne ((inheritsItself_iff hc).mp hself)⟩

/-- A draft with a token name that is reduced to that of a base. -/
def selfNamedDraft : Draft := { cappedDraft with tokenName := "ERC-20" }

/-- This token is called by the name of the base that it imports. -/
theorem inheritsItself_selfNamedDraft : ∃ c, selfNamedDraft.validate = .ok c ∧
    contractNames c.source = ["ERC20"] ∧ "ERC20" ∈ baseNames c.source := by
  have hchosen :
      selfNamedDraft.validate.toOption.any (fun c => c.contractName == "ERC20") = true := by
    decide +kernel
  obtain ⟨c, hc, hname⟩ := Draft.exists_of_validate hchosen
  have hcontract := (Draft.validate_eq_ok_iff.mp hc).isContractName
  rw [beq_iff_eq] at hname
  refine ⟨c, hc, ?_, ?_⟩
  · rw [contractNames_source hcontract, hname]
  · rw [baseNames_source hcontract]
    exact List.mem_cons_self

end TokenLaunch
