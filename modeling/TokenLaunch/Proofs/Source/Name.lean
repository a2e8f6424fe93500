import TokenLaunch.Proofs.Source.Numbers

/-!
# The name in a generated source

A generated source declares one contract, under the name of the configuration.
-/

namespace TokenLaunch

namespace Text

/-- The names of the contracts that a source declares: what stands on a line behind the word
`contract`, up to the next blank. -/
def contractNames (s : String) : List String :=
  (pieces s).flatMap fun line => after "contract ".toList ' ' line.toList

end Text

open Text SourceUnit

namespace Solidity

/-- Only a line that begins with a `c` can declare a contract. -/
theorem after_contract_eq_nil {line : String} (h : line.toList.head? ≠ some 'c') :
    after "contract ".toList ' ' line.toList = [] :=
  after_of_head?_ne rfl h

theorem head?_indentLine (line : String) : (indentLine line).toList.head? ≠ some 'c' := by
  unfold indentLine
  split <;> simp

theorem after_headText {u : SourceUnit} (h : ' ' ∉ u.name.toList) :
    after "contract ".toList ' ' u.headText.toList = [u.name] := by
  have hhead : ∃ rest,
      u.headText.toList = "contract ".toList ++ (u.name.toList ++ ' ' :: rest) := by
    unfold headText
    split
    · exact ⟨['\x7b'], by simp⟩
    · refine ⟨"is ".toList ++ (", ".intercalate u.bases).toList ++ " \x7b".toList, ?_⟩
      have his : " is ".toList = ' ' :: "is ".toList := rfl
      simp [his]
  obtain ⟨rest, hrest⟩ := hhead
  rw [hrest, after_append h, String.ofList_toList]

/-- The line that opens the contract is the only one that begins with a `c`. -/
theorem Contract.flatMap_headText {α : Type} (k : Contract) {g : String → List α}
    (h : ∀ line : String, line.toList.head? ≠ some 'c' → g line = []) :
    k.sourceLines.flatMap g = g k.toSourceUnit.headText := by
  have hempty : g "" = [] := h "" (by simp)
  have himports : (k.toSourceUnit.imports.map importText).flatMap g = [] := by
    simp only [List.flatMap_eq_nil_iff, List.forall_mem_map]
    intro path _
    refine h _ ?_
    rw [head?_importText]
    decide
  have hblocks : ([""].intercalate (k.blocks.map (·.map indentLine))).flatMap g = [] := by
    rw [flatMap_intercalate hempty]
    simp only [List.flatMap_eq_nil_iff, List.forall_mem_map]
    exact fun _ _ line _ => h _ (head?_indentLine line)
  have hfixed : ∀ line ∈ ["// SPDX-License-Identifier: MIT", "pragma solidity ^0.8.20;", "",
      "\x7d"], line.toList.head? ≠ some 'c' := by
    decide
  simp only [List.forall_mem_cons] at hfixed
  obtain ⟨hlicence, hpragma, -, hclose, -⟩ := hfixed
  simp only [Contract.sourceLines, topLines, List.flatMap_append, List.flatMap_cons,
    List.flatMap_nil, himports, hblocks, h _ hlicence, h _ hpragma, h _ hclose, hempty,
    List.append_nil, List.nil_append]

end Solidity

/-- The one contract of a generated source has the name of the configuration. -/
theorem contractNames_source {c : TokenConfig} (h : IsContractName c.contractName) :
    contractNames c.source = [c.contractName] := by
  rw [contractNames, Synthesis.pieces_source h,
    Solidity.Contract.flatMap_headText _ fun _ => Solidity.after_contract_eq_nil]
  exact Solidity.after_headText (h.notMem rfl rfl)

end TokenLaunch
