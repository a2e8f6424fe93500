import TokenLaunch.Proofs.Source.Atoms

/-!
# The lines of a source

A contract whose atoms are lines, and the lines that its source splits into.
-/

namespace TokenLaunch.Solidity

open Text SourceUnit

theorem Initializer.oneLine_render {i : Initializer} (hbase : OneLine i.base)
    (hargs : ∀ a ∈ Expression.atomsAll i.args, OneLine a) : OneLine i.render := by
  refine Expression.oneLine_render _ ?_
  simp only [Expression.atoms, List.forall_mem_cons]
  exact ⟨hbase, hargs⟩

namespace Contract

/-- The atoms of a contract are lines, and so are the statements of its constructor. -/
structure Lined (k : Contract) : Prop where
  name : OneLine k.name
  imports : ∀ path ∈ k.imports, OneLine path
  bases : ∀ b ∈ k.bases, OneLine b
  params_ne_nil : k.params ≠ []
  params : ∀ p ∈ k.params, OneLine p.name
  initializers : ∀ i ∈ k.initializers,
    OneLine i.base ∧ ∀ a ∈ Expression.atomsAll i.args, OneLine a
  statements : ∀ s ∈ k.statements, OneLine s.render
  state_ne_nil : ∀ b ∈ k.state, b ≠ [] ∧ ∀ ds ∈ b, ds ≠ []
  state : ∀ b ∈ k.state, ∀ ds ∈ b, ∀ d ∈ ds, ∀ a ∈ d.atoms, OneLine a
  functions : ∀ f ∈ k.functions, ∀ a ∈ f.atoms, OneLine a

/-- The lines of the sections of a contract. -/
def blocks (k : Contract) : List (List String) :=
  k.state.map StateBlock.lines ++ k.toSourceUnit.constructorLines :: k.functions.map Function.lines

/-- The lines of the source of a contract. -/
def sourceLines (k : Contract) : List String :=
  k.toSourceUnit.topLines ++ [""].intercalate (k.blocks.map (·.map indentLine)) ++ ["\x7d", ""]

namespace Lined

variable {k : Contract}

theorem oneLine_paramTexts {ps : List String} (h : ∀ p ∈ ps, OneLine p) :
    ∀ l ∈ SourceUnit.paramTexts ps, OneLine l := by
  have hcomma : OneLine "," := by decide
  induction ps with
  | nil => simp [SourceUnit.paramTexts]
  | cons p ps ih =>
    have hp := h p List.mem_cons_self
    have ih := ih fun x hx => h x (List.mem_cons_of_mem _ hx)
    cases ps with
    | nil =>
      simp only [SourceUnit.paramTexts, List.forall_mem_singleton, oneLine_append_iff]
      exact ⟨oneLine_indent, hp⟩
    | cons q ps =>
      rw [SourceUnit.paramTexts, List.forall_mem_cons, oneLine_append_iff, oneLine_append_iff]
      exact ⟨⟨⟨oneLine_indent, hp⟩, hcomma⟩, ih⟩

theorem oneLine_initializerText (h : k.Lined) : OneLine k.toSourceUnit.initializerText := by
  simp only [SourceUnit.initializerText, oneLine_append_iff]
  refine ⟨⟨oneLine_close, oneLine_join ?_⟩, oneLine_brace⟩
  intro _ hi
  simp only [toSourceUnit, List.map_map, List.mem_map, Function.comp_apply] at hi
  obtain ⟨i, hi, rfl⟩ := hi
  rw [oneLine_append_iff]
  exact ⟨oneLine_blank, Initializer.oneLine_render (h.initializers i hi).1 (h.initializers i hi).2⟩

theorem oneLine_constructorLines (h : k.Lined) :
    ∀ l ∈ k.toSourceUnit.constructorLines, OneLine l := by
  have hopen : OneLine "constructor(" := by decide
  have hclose : OneLine "\x7d" := by decide
  have hparams : ∀ p ∈ k.toSourceUnit.params, OneLine p := by
    simp only [toSourceUnit, List.forall_mem_map]
    exact fun p hp => p.oneLine_render (h.params p hp)
  have hstatements : ∀ s ∈ k.toSourceUnit.statements, OneLine s := by
    simp only [toSourceUnit, List.forall_mem_map]
    exact h.statements
  simp only [SourceUnit.constructorLines, List.cons_append, List.forall_mem_cons,
    List.forall_mem_append, List.not_mem_nil, false_implies, implies_true, and_true]
  exact ⟨hopen, ⟨⟨oneLine_paramTexts hparams, h.oneLine_initializerText⟩,
    Statement.oneLine_deeper hstatements⟩, hclose⟩

theorem blockLines_sections (h : k.Lined) :
    k.toSourceUnit.sections.map SourceUnit.blockLines = k.blocks.map (·.map indentLine) := by
  have hstate : k.toSourceUnit.state.map SourceUnit.blockLines =
      (k.state.map StateBlock.lines).map (·.map indentLine) := by
    simp only [toSourceUnit, List.map_map]
    refine List.map_congr_left fun b hb => ?_
    obtain ⟨hne, hds⟩ := h.state_ne_nil b hb
    refine StateBlock.blockLines_render hne hds fun ds hmem d hd => ?_
    exact d.oneLine_render (h.state b hb ds hmem d hd)
  have hfunctions : k.toSourceUnit.functions.map SourceUnit.blockLines =
      (k.functions.map Function.lines).map (·.map indentLine) := by
    simp only [toSourceUnit, List.map_map]
    refine List.map_congr_left fun f hf => ?_
    exact Function.blockLines_render (Function.oneLine_lines (h.functions f hf))
  have hparams : k.toSourceUnit.params ≠ [] := by
    simpa [toSourceUnit] using h.params_ne_nil
  have hconstructor := SourceUnit.blockLines_constructorBlock hparams h.oneLine_constructorLines
  rw [SourceUnit.sections, blocks, List.map_append, List.map_append, List.map_cons, List.map_cons,
    hconstructor, hstate, hfunctions]

theorem oneLine_indentLine {l : String} (h : OneLine l) : OneLine (indentLine l) := by
  unfold indentLine
  split
  · decide
  · rw [oneLine_append_iff]
    exact ⟨oneLine_indent, h⟩

theorem oneLine_blocks (h : k.Lined) : ∀ b ∈ k.blocks, ∀ l ∈ b, OneLine l := by
  simp only [blocks, List.forall_mem_append, List.forall_mem_cons, List.forall_mem_map]
  refine ⟨fun b hb => ?_, h.oneLine_constructorLines, fun f hf => ?_⟩
  · refine forall_mem_intercalate (by decide) fun ls hls l hl => ?_
    obtain ⟨ds, hds, rfl⟩ := List.mem_map.mp hls
    obtain ⟨d, hd, rfl⟩ := List.mem_map.mp hl
    exact d.oneLine_render (h.state b hb ds hds d hd)
  · exact Function.oneLine_lines (h.functions f hf)

theorem oneLine_topLines (h : k.Lined) : ∀ l ∈ k.toSourceUnit.topLines, OneLine l := by
  have hfixed : ∀ l ∈ ["// SPDX-License-Identifier: MIT", "pragma solidity ^0.8.20;", ""],
      OneLine l := by
    decide
  have himport : OneLine "import \"" := by decide
  have hquote : OneLine "\";" := by decide
  have hcontract : OneLine "contract " := by decide
  have his : OneLine " is " := by decide
  simp only [SourceUnit.topLines, List.forall_mem_append, List.forall_mem_cons,
    List.forall_mem_map, List.not_mem_nil, false_implies, implies_true, and_true]
  refine ⟨⟨?_, ?_⟩, by decide, ?_⟩
  · simpa using hfixed
  · intro path hpath
    simp only [SourceUnit.importText, oneLine_append_iff]
    exact ⟨⟨himport, h.imports path hpath⟩, hquote⟩
  · simp only [SourceUnit.headText, oneLine_append_iff]
    refine ⟨⟨⟨hcontract, h.name⟩, ?_⟩, oneLine_brace⟩
    split
    · decide
    · rw [oneLine_append_iff]
      exact ⟨his, oneLine_intercalate oneLine_comma h.bases⟩

/-- The source of a contract splits at its line feeds into the lines of its sections. -/
theorem pieces_render (h : k.Lined) : pieces k.toSourceUnit.render = k.sourceLines := by
  have hlines : k.toSourceUnit.textLines = k.sourceLines := by
    rw [SourceUnit.textLines, SourceUnit.bodyLines, h.blockLines_sections, sourceLines]
  have hend : ∀ l ∈ ["\x7d", ""], OneLine l := by decide
  rw [SourceUnit.render_eq_intercalate, hlines, pieces_intercalate (by simp [sourceLines])]
  simp only [sourceLines, List.forall_mem_append]
  refine ⟨⟨h.oneLine_topLines, ?_⟩, hend⟩
  refine forall_mem_intercalate (by decide) fun ls hls l' hl' => ?_
  obtain ⟨b, hb, rfl⟩ := List.mem_map.mp hls
  obtain ⟨l, hl, rfl⟩ := List.mem_map.mp hl'
  exact oneLine_indentLine (h.oneLine_blocks b hb l hl)

end Lined

end Contract

end TokenLaunch.Solidity
