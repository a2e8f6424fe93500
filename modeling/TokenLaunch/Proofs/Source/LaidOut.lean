import TokenLaunch.Proofs.Source.Sections

/-!
# The layout of a generated source

The brackets of a generated source nest, and one is open exactly inside the braces of its one
contract.  Its lines are indented by the brackets that are open where they begin.
-/

namespace TokenLaunch

namespace Text

/-- The pieces of a text make it up again. -/
theorem intercalate_pieces (s : String) : "\n".intercalate (pieces s) = s := by
  have hfeed : "\n".toList = ['\n'] := rfl
  have hpieces : (pieces s).map String.toList = s.toList.splitOn '\n' := by
    rw [pieces, List.map_map]
    exact (List.map_congr_left fun l _ => String.toList_ofList).trans (List.map_id _)
  rw [← String.toList_inj, String.toList_intercalate, hpieces, hfeed, List.intercalate_splitOn]

/-- A source in the frame of one contract: lines above it, its heading with the brace that opens it,
lines between the braces, and the brace that closes it on the last line, which one line feed ends. -/
structure Framed (name source : String) (above : List String) (heading : String)
    (inside : List String) : Prop where
  pieces_eq : pieces source = above ++ (heading ++ "\x7b") :: inside ++ ["\x7d", ""]
  names : ("contract " ++ name ++ " ").toList <+: heading.toList
  /-- Imports stand above the contract only. -/
  imports : ∀ line ∈ (heading ++ "\x7b") :: inside ++ ["\x7d", ""],
    ¬ "import ".toList <+: line.toList
  /-- The brackets nest all the way, and none is open outside the braces of the contract. -/
  open_iff (n : Nat) : ∃ ds, openAt source n = some ds ∧
    (ds = [] ↔ n ≤ (String.join (above.map (· ++ "\n")) ++ heading).length ∨ source.length ≤ n + 1)

/-- A source of one contract, each line of which is indented by the brackets that are open there. -/
structure LaidOut (name source : String) : Prop where
  contract : contractNames source = [name]
  framed : ∃ above heading inside, Framed name source above heading inside
  stands (above : List String) (line : String) (below : List String)
    (h : pieces source = above ++ line :: below) (hne : line ≠ "") :
    ∃ ds, Turns [] (String.join (above.map (· ++ "\n"))) ds ∧ Stands ds.length line.toList

end Text

open Text SourceUnit Synthesis

variable {c : TokenConfig}

namespace Solidity

/-- The text of a contract, cut at the brace that opens it and before the one that closes it. -/
theorem Contract.intercalate_sourceLines (k : Contract) :
    "\n".intercalate k.sourceLines =
      String.join (k.toSourceUnit.aboveLines.map (· ++ "\n")) ++ k.toSourceUnit.heading ++ "\x7b"
        ++ ("\n" ++ String.join (k.innerLines.map fun l => indentLine l ++ "\n") ++ "\x7d\n") := by
  have hend : "\n".intercalate ["\x7d", ""] = "\x7d\n" := rfl
  rw [Contract.sourceLines_eq, intercalate_append (by simp), hend, List.map_append, List.map_cons,
    String.join_append, String.join_cons, List.map_map]
  simp only [String.append_assoc, Function.comp_def]

theorem name_prefix_heading (u : SourceUnit) :
    ("contract " ++ u.name ++ " ").toList <+: u.heading.toList := by
  unfold heading
  split
  · simp
  · have his : " is " = " " ++ "is " := rfl
    refine ⟨("is " ++ ", ".intercalate u.bases ++ " ").toList, ?_⟩
    rw [his, ← String.toList_append]
    simp only [String.append_assoc]

/-- Only above the contract a line begins with an `i`. -/
theorem Contract.not_import {k : Contract} {line : String}
    (h : line ∈ (k.toSourceUnit.heading ++ "\x7b") :: k.innerLines.map indentLine ++ ["\x7d", ""]) :
    ¬ "import ".toList <+: line.toList := by
  have hhead : line.toList.head? ≠ some 'i' := by
    simp only [List.cons_append, List.mem_cons, List.mem_append, List.mem_map, List.not_mem_nil,
      or_false] at h
    rcases h with rfl | ⟨l, -, rfl⟩ | rfl | rfl
    · simp [heading]
    · unfold indentLine
      split <;> simp
    · decide
    · decide
  rintro ⟨rest, heq⟩
  rw [← heq] at hhead
  exact hhead rfl

end Solidity

theorem framed_source (h : IsContractName c.contractName) :
    Framed c.contractName c.source c.sourceUnit.aboveLines c.sourceUnit.heading
      (c.contract.innerLines.map indentLine) := by
  have harranged := arranged_contract h
  have hpieces := pieces_source h
  have hinner : Balanced ("\n" ++ String.join
      (c.contract.innerLines.map fun l => indentLine l ++ "\n")) :=
    Balanced.append (by decide) harranged.lays_innerLines.turns
  have hsource := intercalate_pieces c.source
  rw [hpieces, Solidity.Contract.intercalate_sourceLines] at hsource
  refine ⟨by rw [hpieces, Solidity.Contract.sourceLines_eq]; rfl,
    Solidity.name_prefix_heading c.sourceUnit, fun line hline => Solidity.Contract.not_import hline,
    fun n => ?_⟩
  rw [← hsource]
  exact openAt_braces harranged.bare_front hinner n

/-- The source of an accepted draft is laid out by its brackets. -/
theorem laidOut_of_validate {d : Draft} {c : TokenConfig} (h : d.validate = .ok c) :
    LaidOut c.contractName c.source := by
  have hname := (Draft.validate_eq_ok_iff.mp h).isContractName
  have hlays := (arranged_contract hname).lays_sourceLines
  refine ⟨contractNames_source hname, ⟨_, _, _, framed_source hname⟩, ?_⟩
  intro above line below hcut hne
  rw [← pieces_source hname, hcut] at hlays
  exact hlays.stands hne

theorem laidOut_fullDraft : ∃ c, fullDraft.validate = .ok c ∧ c.securityFunctions.length = 4 ∧
    LaidOut "TIN" c.source := by
  have hchosen : fullDraft.validate.toOption.any (fun c =>
      decide (c.securityFunctions.length = 4 ∧ c.contractName = "TIN")) = true := by
    decide +kernel
  obtain ⟨c, hc, hp⟩ := Draft.exists_of_validate hchosen
  obtain ⟨hlength, hname⟩ := of_decide_eq_true hp
  have hlaid := laidOut_of_validate hc
  exact ⟨c, hc, hlength, hname ▸ hlaid⟩

end TokenLaunch
