import TokenLaunch.Proofs.Source.Lines
import TokenLaunch.Solidity.Contract

/-!
# The lines of a contract

The blocks of a contract, its state, its constructor and its functions, as lists of lines, and the
lines that the source unit of a contract shows for them.
-/

namespace TokenLaunch

open Text SourceUnit

theorem SourceUnit.blockLines_intercalate {ls : List String} (hne : ls ≠ [])
    (h : ∀ l ∈ ls, OneLine l) (hlast : ls.getLast? ≠ some "") :
    blockLines ("\n".intercalate ls) = ls.map indentLine := by
  unfold blockLines
  rw [lines_intercalate h hlast]
  cases ls with
  | nil => exact absurd rfl hne
  | cons l ls => rfl

namespace Solidity

/-! ## Functions -/

theorem Function.blockLines_render {f : Function} (h : ∀ l ∈ f.lines, OneLine l) :
    blockLines f.render = f.lines.map indentLine := by
  have hlast : f.lines.getLast? = some "\x7d" := List.getLast?_concat
  exact blockLines_intercalate (by simp [Function.lines]) h (by simp [hlast])

/-! ## State -/

/-- The lines of a block: one for each declaration, and an empty one between paragraphs. -/
def StateBlock.lines (b : StateBlock) : List String :=
  [""].intercalate (b.map (·.map Declaration.render))

theorem StateBlock.render_eq_intercalate {b : StateBlock} (h : ∀ ds ∈ b, ds ≠ []) :
    b.render = "\n".intercalate b.lines := by
  rw [StateBlock.lines, ← intercalate_blocks, List.map_map]
  · rfl
  · intro ds hds
    obtain ⟨ds, hmem, rfl⟩ := List.mem_map.mp hds
    simpa using h ds hmem

theorem Declaration.render_ne_empty (d : Declaration) : d.render ≠ "" := by
  intro h
  have hchars : d.render.toList = [] := by rw [h, String.toList_empty]
  cases d <;> simp [Declaration.render] at hchars

theorem StateBlock.blockLines_render {b : StateBlock} (hne : b ≠ []) (h : ∀ ds ∈ b, ds ≠ [])
    (hlines : ∀ ds ∈ b, ∀ d ∈ ds, OneLine d.render) :
    blockLines b.render = b.lines.map indentLine := by
  have hblocks : ∀ ls ∈ b.map (·.map Declaration.render), ls ≠ [] := by
    simpa using h
  obtain ⟨ls, hls, l, hl, hlast⟩ := getLast?_intercalate (by simpa using hne) hblocks
  rw [StateBlock.render_eq_intercalate h]
  refine blockLines_intercalate (intercalate_ne_nil (by simpa using hne) hblocks) ?_ ?_
  · refine forall_mem_intercalate (by decide) fun ls hls l hl => ?_
    obtain ⟨ds, hds, rfl⟩ := List.mem_map.mp hls
    obtain ⟨d, hd, rfl⟩ := List.mem_map.mp hl
    exact hlines ds hds d hd
  · obtain ⟨ds, -, rfl⟩ := List.mem_map.mp hls
    obtain ⟨d, -, rfl⟩ := List.mem_map.mp hl
    rw [StateBlock.lines, hlast]
    simpa using d.render_ne_empty

end Solidity

/-! ## The constructor -/

namespace SourceUnit

/-- Parameters stand one to a line, with a comma behind all but the last. -/
def paramTexts : List String → List String
  | [] => []
  | [p] => ["    " ++ p]
  | p :: q :: ps => ("    " ++ p ++ ",") :: paramTexts (q :: ps)

theorem paramTexts_ne_nil {ps : List String} (h : ps ≠ []) : paramTexts ps ≠ [] := by
  unfold paramTexts
  split <;> simp_all

theorem paramLines_of_ne_nil {ps : List String} (h : ps ≠ []) :
    paramLines ps = "\n" ++ ",\n".intercalate (ps.map ("    " ++ ·)) ++ "\n" := by
  rw [paramLines, if_neg (by simpa using h)]

theorem intercalate_paramTexts (ps : List String) :
    "\n".intercalate (paramTexts ps) = ",\n".intercalate (ps.map ("    " ++ ·)) := by
  have hcomma : ",\n" = "," ++ "\n" := rfl
  induction ps with
  | nil => rfl
  | cons p ps ih =>
    cases ps with
    | nil => simp [paramTexts]
    | cons q ps =>
      rw [paramTexts, String.intercalate_cons_of_ne_nil (paramTexts_ne_nil (List.cons_ne_nil _ _)),
        ih]
      simp only [List.map_cons, String.intercalate_cons_cons, hcomma, String.append_assoc]

/-- The line with the calls of the constructors of bases. -/
def initializerText (u : SourceUnit) : String :=
  ")" ++ String.join (u.initializers.map (" " ++ ·)) ++ " \x7b"

/-- The lines of a constructor that has parameters. -/
def constructorLines (u : SourceUnit) : List String :=
  "constructor(" :: paramTexts u.params ++ [u.initializerText]
    ++ u.statements.map ("    " ++ ·) ++ ["\x7d"]

theorem constructorBlock_eq_intercalate {u : SourceUnit} (h : u.params ≠ []) :
    u.constructorBlock = "\n".intercalate u.constructorLines := by
  have hstatements : "\n".intercalate (u.statements.map ("    " ++ ·) ++ ["\x7d"]) =
      String.join (u.statements.map fun s => "    " ++ s ++ "\n") ++ "\x7d" := by
    rw [intercalate_append (List.cons_ne_nil _ _), List.map_map, String.intercalate_singleton]
    rfl
  have hlines : u.constructorLines = "constructor(" :: (paramTexts u.params
      ++ u.initializerText :: (u.statements.map ("    " ++ ·) ++ ["\x7d"])) := by
    simp [constructorLines]
  have hbrace : " \x7b" ++ "\n" = " \x7b\n" := by simp
  have hopen : ∀ s : String, " \x7b\n" ++ s = " \x7b" ++ ("\n" ++ s) := fun s =>
    (congrArg (· ++ s) hbrace.symm).trans String.append_assoc
  unfold constructorBlock
  rw [paramLines_of_ne_nil h, hlines, String.intercalate_cons_of_ne_nil (by simp),
    String.intercalate_append_of_ne_nil (paramTexts_ne_nil h) (by simp),
    String.intercalate_cons_of_ne_nil (by simp), hstatements, intercalate_paramTexts,
    initializerText]
  simp only [String.append_assoc, hopen]

theorem blockLines_constructorBlock {u : SourceUnit} (h : u.params ≠ [])
    (hlines : ∀ l ∈ u.constructorLines, OneLine l) :
    blockLines u.constructorBlock = u.constructorLines.map indentLine := by
  have hlast : u.constructorLines.getLast? = some "\x7d" := List.getLast?_concat
  rw [constructorBlock_eq_intercalate h]
  exact blockLines_intercalate (by simp [constructorLines]) hlines (by simp [hlast])

end SourceUnit

end TokenLaunch
