import Mathlib.Tactic.Common
import TokenLaunch.SourceUnit

/-!
# The lines of a source unit

A rendered source unit is a list of lines with line feeds between them, and a text of such lines
splits into exactly these.
-/

namespace TokenLaunch

namespace Text

/-- What holds of two texts in a row when it holds of each holds of any number of texts in a row. -/
theorem intercalate_closed {P : String → Prop} (hempty : P "")
    (happend : ∀ s t, P s → P t → P (s ++ t)) {sep : String} {ss : List String} (hsep : P sep)
    (h : ∀ s ∈ ss, P s) : P (sep.intercalate ss) := by
  induction ss with
  | nil => exact hempty
  | cons s ss ih =>
    obtain ⟨hs, hss⟩ := List.forall_mem_cons.mp h
    cases ss with
    | nil => simpa using hs
    | cons t ss =>
      rw [String.intercalate_cons_cons]
      exact happend _ _ (happend _ _ hs hsep) (ih hss)

theorem join_closed {P : String → Prop} (hempty : P "") (happend : ∀ s t, P s → P t → P (s ++ t))
    {ss : List String} (h : ∀ s ∈ ss, P s) : P (String.join ss) := by
  induction ss with
  | nil => exact hempty
  | cons s ss ih =>
    obtain ⟨hs, hss⟩ := List.forall_mem_cons.mp h
    rw [String.join_cons]
    exact happend _ _ hs (ih hss)

theorem notMem_append {s t : String} {x : Char} (hs : x ∉ s.toList) (ht : x ∉ t.toList) :
    x ∉ (s ++ t).toList := by
  rw [String.toList_append, List.mem_append, not_or]
  exact ⟨hs, ht⟩

theorem notMem_intercalate {sep : String} {ss : List String} {x : Char} (hsep : x ∉ sep.toList)
    (h : ∀ s ∈ ss, x ∉ s.toList) : x ∉ (sep.intercalate ss).toList :=
  intercalate_closed (P := (x ∉ ·.toList)) (by simp) (fun _ _ => notMem_append) hsep h

/-- Neither a line feed nor a carriage return stands in the text. -/
def OneLine (s : String) : Prop := '\n' ∉ s.toList ∧ '\r' ∉ s.toList

instance (s : String) : Decidable (OneLine s) := inferInstanceAs (Decidable (_ ∧ _))

/-- The texts between line feeds. -/
def pieces (s : String) : List String := (s.toList.splitOn '\n').map String.ofList

theorem splitOn_intercalate {sep : Char} {ls : List String} (hne : ls ≠ [])
    (h : ∀ l ∈ ls, sep ∉ l.toList) :
    (([sep].intercalate (ls.map String.toList)).splitOn sep).map String.ofList = ls := by
  rw [List.splitOn_intercalate sep (by simpa using h) (by simpa using hne), List.map_map]
  exact (List.map_congr_left fun l _ => String.ofList_toList).trans (List.map_id _)

theorem pieces_intercalate_of_notMem {ls : List String} (hne : ls ≠ [])
    (h : ∀ l ∈ ls, '\n' ∉ l.toList) : pieces ("\n".intercalate ls) = ls := by
  have hfeed : "\n".toList = ['\n'] := rfl
  rw [pieces, String.toList_intercalate, hfeed, splitOn_intercalate hne h]

theorem pieces_intercalate {ls : List String} (hne : ls ≠ []) (h : ∀ l ∈ ls, OneLine l) :
    pieces ("\n".intercalate ls) = ls :=
  pieces_intercalate_of_notMem hne fun l hl => (h l hl).1

theorem dropReturn_reverse {cs : List Char} (h : '\r' ∉ cs) :
    dropReturn cs.reverse = cs.reverse := by
  cases hrev : cs.reverse with
  | nil => rfl
  | cons c rest =>
    have hc : c ≠ '\r' := by
      rintro rfl
      exact h (List.mem_reverse.mp (hrev ▸ List.mem_cons_self))
    unfold dropReturn
    split
    · rename_i heq
      cases heq
      exact absurd rfl hc
    · rfl

theorem linesFrom_append {line cs rest : List Char} (h : '\n' ∉ cs) :
    linesFrom line (cs ++ rest) = linesFrom (cs.reverse ++ line) rest := by
  induction cs generalizing line with
  | nil => rfl
  | cons c cs ih =>
    simp only [List.mem_cons, not_or] at h
    obtain ⟨hc, hcs⟩ := h
    rw [List.cons_append, linesFrom, if_neg (Ne.symm hc), ih hcs]
    simp

theorem lines_append_feed {l rest : String} (h : OneLine l) :
    lines (l ++ "\n" ++ rest) = l :: lines rest := by
  have hchars : (l ++ "\n" ++ rest).toList = l.toList ++ '\n' :: rest.toList := by simp
  rw [lines, hchars, linesFrom_append h.1, List.append_nil, linesFrom, if_pos rfl,
    dropReturn_reverse h.2, List.reverse_reverse, String.ofList_toList, lines]

theorem lines_of_oneLine {l : String} (h : OneLine l) (hne : l ≠ "") : lines l = [l] := by
  have hlist : l.toList ≠ [] := fun hnil => hne (String.toList_inj.mp (by simpa using hnil))
  rw [lines, ← List.append_nil l.toList, linesFrom_append h.1, List.append_nil, linesFrom]
  simp [hlist]

/-- Lines that are put together come apart again, unless the last is empty. -/
theorem lines_intercalate {ls : List String} (h : ∀ l ∈ ls, OneLine l)
    (hlast : ls.getLast? ≠ some "") : lines ("\n".intercalate ls) = ls := by
  induction ls with
  | nil => rfl
  | cons l ls ih =>
    have hl := h l List.mem_cons_self
    cases ls with
    | nil =>
      rw [String.intercalate_singleton]
      exact lines_of_oneLine hl (by simpa using hlast)
    | cons l' ls =>
      rw [String.intercalate_cons_cons, lines_append_feed hl,
        ih (fun x hx => h x (List.mem_cons_of_mem _ hx)) (by simpa using hlast)]

/-- Lines that each bring their own line feed, and more lines. -/
theorem intercalate_append {ls rest : List String} (hrest : rest ≠ []) :
    "\n".intercalate (ls ++ rest) =
      String.join (ls.map (· ++ "\n")) ++ "\n".intercalate rest := by
  induction ls with
  | nil => simp
  | cons l ls ih =>
    have hne : ls ++ rest ≠ [] := List.append_ne_nil_of_right_ne_nil _ hrest
    rw [List.cons_append, String.intercalate_cons_of_ne_nil hne, ih, List.map_cons,
      String.join_cons, String.append_assoc, String.append_assoc, String.append_assoc]

end Text

namespace SourceUnit

open Text

/-- The lines that a block takes in the text: an empty block takes one. -/
def blockLines (block : String) : List String :=
  match lines block with
  | [] => [""]
  | l :: ls => (l :: ls).map indentLine

theorem blockLines_ne_nil (block : String) : blockLines block ≠ [] := by
  unfold blockLines
  split <;> simp

theorem indent_eq_intercalate (block : String) :
    indent block = "\n".intercalate (blockLines block) := by
  unfold indent blockLines
  split
  · rename_i h
    rw [h]
    rfl
  · rename_i h
    rw [h]

/-- The line of an import. -/
def importText (path : String) : String := "import \"" ++ path ++ "\";"

/-- The line that opens the contract. -/
def headText (u : SourceUnit) : String :=
  "contract " ++ u.name
    ++ (if u.bases.isEmpty then "" else " is " ++ ", ".intercalate u.bases) ++ " \x7b"

/-- Everything above the body of the contract. -/
def topLines (u : SourceUnit) : List String :=
  ["// SPDX-License-Identifier: MIT", "pragma solidity ^0.8.20;", ""]
    ++ u.imports.map importText ++ ["", u.headText]

/-- The sections with an empty line between two of them. -/
def bodyLines (u : SourceUnit) : List String := [""].intercalate (u.sections.map blockLines)

/-- Every line of the text; it ends in a line feed, and so its last line is empty. -/
def textLines (u : SourceUnit) : List String := u.topLines ++ u.bodyLines ++ ["\x7d", ""]

theorem intercalate_ne_nil {blocks : List (List String)} (hne : blocks ≠ [])
    (h : ∀ b ∈ blocks, b ≠ []) : [""].intercalate blocks ≠ [] := by
  cases blocks with
  | nil => exact absurd rfl hne
  | cons b blocks =>
    have hb := h b List.mem_cons_self
    cases blocks <;> simp [hb]

theorem forall_mem_intercalate {p : String → Prop} {blocks : List (List String)} (hempty : p "")
    (h : ∀ b ∈ blocks, ∀ l ∈ b, p l) : ∀ l ∈ [""].intercalate blocks, p l := by
  induction blocks with
  | nil => simp
  | cons b blocks ih =>
    have hb := h b List.mem_cons_self
    have ih := ih fun x hx => h x (List.mem_cons_of_mem _ hx)
    cases blocks with
    | nil => simpa using hb
    | cons b' blocks =>
      rw [List.intercalate_cons_cons]
      simp only [List.forall_mem_append, List.forall_mem_singleton]
      exact ⟨⟨hb, hempty⟩, ih⟩

/-- The last of all lines is a line of some block. -/
theorem getLast?_intercalate {blocks : List (List String)} (hne : blocks ≠ [])
    (h : ∀ b ∈ blocks, b ≠ []) :
    ∃ b ∈ blocks, ∃ l ∈ b, ([""].intercalate blocks).getLast? = some l := by
  induction blocks with
  | nil => exact absurd rfl hne
  | cons b blocks ih =>
    cases blocks with
    | nil =>
      have hb := h b List.mem_cons_self
      exact ⟨b, List.mem_cons_self, b.getLast hb, List.getLast_mem hb, by
        simp [List.getLast?_eq_some_getLast hb]⟩
    | cons b' blocks =>
      obtain ⟨x, hx, l, hl, hlast⟩ := ih (List.cons_ne_nil _ _) fun x hx =>
        h x (List.mem_cons_of_mem _ hx)
      refine ⟨x, List.mem_cons_of_mem _ hx, l, hl, ?_⟩
      rw [List.intercalate_cons_cons, List.getLast?_append, hlast]
      rfl

/-- Empty lines between blocks are line feeds doubled. -/
theorem intercalate_blocks {blocks : List (List String)} (h : ∀ b ∈ blocks, b ≠ []) :
    "\n\n".intercalate (blocks.map ("\n".intercalate ·)) =
      "\n".intercalate ([""].intercalate blocks) := by
  have hfeeds : "\n\n" = "\n" ++ "\n" := rfl
  induction blocks with
  | nil => rfl
  | cons b blocks ih =>
    cases blocks with
    | nil => simp
    | cons b' blocks =>
      have hb := h b List.mem_cons_self
      have htail : ∀ x ∈ b' :: blocks, x ≠ [] := fun x hx => h x (List.mem_cons_of_mem _ hx)
      have hrest := intercalate_ne_nil (List.cons_ne_nil b' blocks) htail
      have ih := ih htail
      simp only [List.map_cons, String.intercalate_cons_cons] at ih ⊢
      rw [ih, List.intercalate_cons_cons, List.append_assoc,
        String.intercalate_append_of_ne_nil hb (by simp), List.singleton_append,
        String.intercalate_cons_of_ne_nil hrest, hfeeds]
      simp only [String.append_assoc, String.empty_append]

theorem bodyLines_ne_nil (u : SourceUnit) : u.bodyLines ≠ [] := by
  refine intercalate_ne_nil (by simp [sections]) ?_
  intro b hb
  obtain ⟨block, -, rfl⟩ := List.mem_map.mp hb
  exact blockLines_ne_nil block

theorem intercalate_bodyLines (u : SourceUnit) :
    "\n\n".intercalate (u.sections.map indent) = "\n".intercalate u.bodyLines := by
  rw [bodyLines, ← intercalate_blocks, List.map_map]
  · exact congrArg _ (List.map_congr_left fun b _ => indent_eq_intercalate b)
  · intro b hb
    obtain ⟨block, -, rfl⟩ := List.mem_map.mp hb
    exact blockLines_ne_nil block

theorem join_topLines (u : SourceUnit) :
    String.join (u.topLines.map (· ++ "\n")) =
      licenceLine ++ pragmaLine ++ "\n" ++ String.join (u.imports.map importLine) ++ "\n"
        ++ u.contractLine := by
  have himports : u.imports.map ((· ++ "\n") ∘ importText) = u.imports.map importLine := by
    refine List.map_congr_left fun path _ => ?_
    simp [importText, importLine, String.append_assoc]
  have hlicence : "// SPDX-License-Identifier: MIT" ++ "\n" = licenceLine := rfl
  have hpragma : "pragma solidity ^0.8.20;" ++ "\n" = pragmaLine := rfl
  have hhead : u.headText ++ "\n" = u.contractLine := by
    simp [headText, contractLine, String.append_assoc]
  simp only [topLines, List.map_append, List.map_cons, List.map_nil, List.map_map, himports,
    hlicence, hpragma, hhead, String.join_append, String.join_cons, String.join_nil,
    String.empty_append, String.append_empty, String.append_assoc]

/-- The whole text is its lines with line feeds between them. -/
theorem render_eq_intercalate (u : SourceUnit) : u.render = "\n".intercalate u.textLines := by
  have hend : "\n".intercalate (u.bodyLines ++ ["\x7d", ""]) =
      "\n".intercalate u.bodyLines ++ "\n\x7d\n" := by
    rw [String.intercalate_append_of_ne_nil u.bodyLines_ne_nil (by simp)]
    simp [String.append_assoc]
  rw [textLines, List.append_assoc, Text.intercalate_append (by simp), join_topLines, hend,
    ← intercalate_bodyLines, render]
  simp [String.append_assoc]

end SourceUnit

end TokenLaunch
