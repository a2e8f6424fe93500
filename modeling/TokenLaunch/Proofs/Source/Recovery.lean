import TokenLaunch.Proofs.Source.Lines

/-!
# Recovering sections

The text of a source unit, cut at its line feeds, is its heading, the lines of one section after the
other, and a brace.  Whoever knows how many lines each section has finds them all in the text again.
Sections may hold any texts, with line ends of either kind, returns that end no line, and empty
lines anywhere.
-/

namespace TokenLaunch

namespace Text

theorem mem_of_mem_dropReturn {c : Char} {cs : List Char} (h : c ∈ dropReturn cs) : c ∈ cs := by
  unfold dropReturn at h
  split at h
  · exact List.mem_cons_of_mem _ h
  · exact h

theorem notMem_of_mem_linesFrom {line cs : List Char} (h : '\n' ∉ line) :
    ∀ l ∈ linesFrom line cs, '\n' ∉ l.toList := by
  induction cs generalizing line with
  | nil =>
    intro l hl
    rw [linesFrom] at hl
    split at hl
    · cases hl
    · rw [List.mem_singleton.mp hl]
      simpa using h
  | cons c cs ih =>
    rw [linesFrom]
    split
    · rw [List.forall_mem_cons]
      refine ⟨?_, ih List.not_mem_nil⟩
      rw [String.toList_ofList, List.mem_reverse]
      exact mt mem_of_mem_dropReturn h
    · rename_i hc
      exact ih (by simp [h, Ne.symm hc])

/-- No line has a line feed in it. -/
theorem notMem_of_mem_lines {s l : String} (h : l ∈ lines s) : '\n' ∉ l.toList :=
  notMem_of_mem_linesFrom List.not_mem_nil l h

end Text

namespace SourceUnit

open Text

/-- What is written within one line: the name, the bases and the paths of imports. -/
structure Headed (u : SourceUnit) : Prop where
  name : '\n' ∉ u.name.toList
  bases : ∀ b ∈ u.bases, '\n' ∉ b.toList
  imports : ∀ p ∈ u.imports, '\n' ∉ p.toList

/-! ## The lines of the text -/

theorem notMem_indentLine {l : String} (h : '\n' ∉ l.toList) : '\n' ∉ (indentLine l).toList := by
  unfold indentLine
  split
  · simp
  · exact notMem_append (by decide) h

theorem notMem_blockLines (block : String) : ∀ l ∈ blockLines block, '\n' ∉ l.toList := by
  intro l hl
  unfold blockLines at hl
  split at hl
  · rw [List.mem_singleton.mp hl]
    simp
  · rename_i hlines
    obtain ⟨l', hl', rfl⟩ := List.mem_map.mp hl
    exact notMem_indentLine (notMem_of_mem_lines (hlines ▸ hl'))

variable {u : SourceUnit}

theorem Headed.notMem_topLines (h : u.Headed) : ∀ l ∈ u.topLines, '\n' ∉ l.toList := by
  have himports : ∀ l ∈ u.imports.map importText, '\n' ∉ l.toList :=
    List.forall_mem_map.mpr fun p hp =>
      notMem_append (notMem_append (by decide) (h.imports p hp)) (by decide)
  have hbases : '\n' ∉
      (if u.bases.isEmpty then "" else " is " ++ ", ".intercalate u.bases).toList := by
    split
    · simp
    · exact notMem_append (by decide) (notMem_intercalate (by decide) h.bases)
  have hhead : '\n' ∉ u.headText.toList :=
    notMem_append (notMem_append (notMem_append (by decide) h.name) hbases) (by decide)
  simp only [topLines, List.forall_mem_append, List.forall_mem_cons, List.not_mem_nil,
    false_imp_iff, implies_true, and_true]
  exact ⟨⟨⟨by decide, by decide, by decide⟩, himports⟩, by decide, hhead⟩

theorem pieces_render (h : u.Headed) : pieces u.render = u.textLines := by
  rw [render_eq_intercalate]
  refine pieces_intercalate_of_notMem (by simp [textLines]) ?_
  simp only [textLines, List.forall_mem_append, List.forall_mem_cons, List.not_mem_nil,
    false_imp_iff, implies_true, and_true]
  refine ⟨⟨h.notMem_topLines, ?_⟩, by decide, by decide⟩
  refine forall_mem_intercalate (p := ('\n' ∉ ·.toList)) (by simp) fun b hb => ?_
  obtain ⟨block, -, rfl⟩ := List.mem_map.mp hb
  exact notMem_blockLines block

/-! ## Back to the sections -/

/-- A line without its indentation. -/
def outdentLine (line : String) : String := String.ofList (line.toList.drop 4)

/-- Cuts sections of so many lines out of lines.  A section without lines has an empty one in its
place, and one more stands behind each section. -/
def cut : List Nat → List String → List (List String)
  | [], _ => []
  | n :: ns, ls => (ls.take n).map outdentLine :: cut ns (ls.drop (max n 1 + 1))

end SourceUnit

end TokenLaunch
