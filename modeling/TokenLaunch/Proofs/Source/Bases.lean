import TokenLaunch.Proofs.Source.Name

/-!
# The bases in a generated source

The line that opens a generated contract names the bases of the configuration, in their order.
-/

namespace TokenLaunch

namespace Text

/-- The words of a line, between blanks. -/
def words (line : String) : List String := (line.toList.splitOn ' ').map String.ofList

theorem words_intercalate {ws : List String} (hne : ws ≠ []) (h : ∀ w ∈ ws, ' ' ∉ w.toList) :
    words (" ".intercalate ws) = ws := by
  have hblank : " ".toList = [' '] := rfl
  rw [words, String.toList_intercalate, hblank, splitOn_intercalate hne h]

/-- A word up to the comma in it. -/
def untilComma (w : String) : String := String.ofList (w.toList.takeWhile (· ≠ ','))

/-- The contracts that a line declares as bases: the words behind the third one, but for the
brace. -/
def basesOn (line : String) : List String :=
  match words line with
  | "contract" :: _ :: _ :: ws => ws.dropLast.map untilComma
  | _ => []

/-- The bases that a source declares. -/
def baseNames (s : String) : List String := (pieces s).flatMap basesOn

/-- Words with a comma behind all but the last. -/
def listed : List String → List String
  | [] => []
  | [w] => [w]
  | w :: w' :: ws => (w ++ ",") :: listed (w' :: ws)

theorem listed_ne_nil {ws : List String} (h : ws ≠ []) : listed ws ≠ [] := by
  unfold listed
  split <;> simp_all

theorem intercalate_listed (ws : List String) :
    " ".intercalate (listed ws) = ", ".intercalate ws := by
  have hcomma : ", " = "," ++ " " := rfl
  induction ws with
  | nil => rfl
  | cons w ws ih =>
    cases ws with
    | nil => simp [listed]
    | cons w' ws =>
      rw [listed, String.intercalate_cons_of_ne_nil (listed_ne_nil (List.cons_ne_nil _ _)), ih,
        String.intercalate_cons_cons, hcomma]
      simp only [String.append_assoc]

/-- The commas are taken off again. -/
theorem map_untilComma_listed {ws : List String} (h : ∀ w ∈ ws, ',' ∉ w.toList) :
    (listed ws).map untilComma = ws := by
  have hlast {w : String} (hw : ',' ∉ w.toList) : untilComma w = w := by
    have hall : (w.toList ++ []).takeWhile (· ≠ ',') = w.toList ++ [].takeWhile (· ≠ ',') :=
      List.takeWhile_append_of_pos fun c hc => decide_eq_true (ne_of_mem_of_not_mem hc hw)
    rw [List.append_nil, List.takeWhile_nil, List.append_nil] at hall
    rw [untilComma, hall, String.ofList_toList]
  have hcomma {w : String} (hw : ',' ∉ w.toList) : untilComma (w ++ ",") = w := by
    have hchars : (w ++ ",").toList = w.toList ++ ',' :: [] := by simp
    rw [untilComma, hchars, takeWhile_ne_append hw, String.ofList_toList]
  induction ws with
  | nil => rfl
  | cons w ws ih =>
    rw [List.forall_mem_cons] at h
    cases ws with
    | nil => rw [listed, List.map_singleton, hlast h.1]
    | cons w' ws => rw [listed, List.map_cons, hcomma h.1, ih h.2]

theorem notMem_listed {x : Char} (hx : x ≠ ',') {ws : List String} (h : ∀ w ∈ ws, x ∉ w.toList) :
    ∀ w ∈ listed ws, x ∉ w.toList := by
  induction ws with
  | nil => exact fun w hw => absurd hw List.not_mem_nil
  | cons w ws ih =>
    rw [List.forall_mem_cons] at h
    cases ws with
    | nil => simpa [listed] using h.1
    | cons w' ws =>
      rw [listed, List.forall_mem_cons]
      exact ⟨by simpa using ⟨h.1, hx⟩, ih h.2⟩

/-- Only a line that begins with a `c` declares bases. -/
theorem basesOn_eq_nil {line : String} (h : line.toList.head? ≠ some 'c') : basesOn line = [] := by
  unfold basesOn
  split
  · rename_i hwords
    obtain ⟨cs, css, hsplit, hcs, hrest⟩ := List.map_eq_cons_iff.mp hwords
    obtain ⟨cs', css', rfl, -⟩ := List.map_eq_cons_iff.mp hrest
    have hline : [' '].intercalate (line.toList.splitOn ' ') = line.toList :=
      List.intercalate_splitOn ' '
    rw [hsplit, List.intercalate_cons_cons, ← String.toList_ofList (l := cs), hcs] at hline
    exact absurd (by rw [← hline]; rfl) h
  · rfl

end Text

open Text SourceUnit

theorem SourceUnit.headText_eq_intercalate {u : SourceUnit} (hne : u.bases ≠ []) :
    u.headText = " ".intercalate (["contract", u.name, "is"] ++ (listed u.bases ++ ["\x7b"])) := by
  have hempty : u.bases.isEmpty = false := by simpa using hne
  have hblanks : " is " = " " ++ ("is" ++ " ") ∧ "contract " = "contract" ++ " " ∧
      " \x7b" = " " ++ "\x7b" := ⟨rfl, rfl, rfl⟩
  obtain ⟨his, hcontract, hbrace⟩ := hblanks
  rw [headText, hempty, String.intercalate_append_of_ne_nil (List.cons_ne_nil _ _) (by simp),
    String.intercalate_append_of_ne_nil (listed_ne_nil hne) (List.cons_ne_nil _ _),
    intercalate_listed, his, hcontract, hbrace]
  simp [String.append_assoc]

theorem SourceUnit.basesOn_headText {u : SourceUnit} (hname : ' ' ∉ u.name.toList)
    (hne : u.bases ≠ []) (hblank : ∀ b ∈ u.bases, ' ' ∉ b.toList)
    (hcomma : ∀ b ∈ u.bases, ',' ∉ b.toList) : basesOn u.headText = u.bases := by
  have hwords : words u.headText =
      ["contract", u.name, "is"] ++ (listed u.bases ++ ["\x7b"]) := by
    rw [headText_eq_intercalate hne]
    refine words_intercalate (List.cons_ne_nil _ _) ?_
    simp only [List.forall_mem_append, List.forall_mem_cons]
    exact ⟨⟨by decide, hname, by decide, by simp⟩, notMem_listed (by decide) hblank, by decide,
      by simp⟩
  rw [basesOn, hwords]
  simp [map_untilComma_listed hcomma]

/-- The bases that a source declares are those of the configuration. -/
theorem baseNames_source {c : TokenConfig} (h : IsContractName c.contractName) :
    baseNames c.source = (Synthesis.bases c).map Synthesis.Base.name := by
  have hfixed : ∀ b : Synthesis.Base, ' ' ∉ b.name.toList ∧ ',' ∉ b.name.toList := by
    intro b
    cases b <;> decide
  rw [baseNames, Synthesis.pieces_source h,
    Solidity.Contract.flatMap_headText _ fun _ => basesOn_eq_nil]
  refine SourceUnit.basesOn_headText (h.notMem rfl rfl) (List.cons_ne_nil _ _) ?_ ?_
  · exact List.forall_mem_map.mpr fun b _ => (hfixed b).1
  · exact List.forall_mem_map.mpr fun b _ => (hfixed b).2

end TokenLaunch
