import Mathlib.Data.Nat.Digits.Defs
import TokenLaunch.Json.Decoder
import TokenLaunch.Proofs.Hex
import TokenLaunch.Proofs.Json.Grammar

/-!
# Printed JSON

The compact and the indented text of a value are spellings of its tree.
-/

namespace TokenLaunch.Json

open Text

/-- Values without floating-point numbers, which are printed with a point while their trees have
exponents. -/
inductive Exact : Json → Prop
  | null : Exact .null
  | bool (b : Bool) : Exact (.bool b)
  | natural (n : Nat) : Exact (.num (.natural n))
  | negative (n : Nat) : Exact (.num (.negative n))
  | str (s : String) : Exact (.str s)
  | arr {items : List Json} (h : ∀ v ∈ items, Exact v) : Exact (.arr items)
  | obj {members : List (String × Json)} (h : ∀ m ∈ members, Exact m.2) : Exact (.obj members)

/-! ## Texts and numbers -/

theorem readUnit_control {n : Nat} (hn : n < 32) :
    readUnit '0' '0' (Hex.digit (n / 16)) (Hex.digit n) = some n := by
  have hzero : Hex.value? '0' = some 0 := rfl
  simp only [readUnit, hzero, Hex.value?_digit, Option.bind_eq_bind, Option.bind_some,
    Option.some.injEq]
  omega

theorem ofUnit_toNat {c : Char} (hc : c.toNat < 32) : Piece.ofUnit c.toNat = .whole c := by
  rw [Piece.ofUnit, if_neg (by omega), Char.ofNat_toNat]

theorem SpellsPieces.escape {ps : List Piece} {cs : List Char} (h : SpellsPieces ps cs)
    (c : Char) : SpellsPieces (.whole c :: ps) (Json.escape c ++ cs) := by
  have hmark {e d : Char} (he : Json.escaped e = some d) (hprint : Json.escape d = ['\\', e]) :
      SpellsPieces (.whole d :: ps) (Json.escape d ++ cs) := by
    rw [hprint]
    exact .escaped he h
  rcases eq_or_ne c '"' with rfl | hquote
  · exact hmark rfl rfl
  rcases eq_or_ne c '\\' with rfl | hescape
  · exact hmark rfl rfl
  rcases eq_or_ne c '\x08' with rfl | hback
  · exact hmark rfl rfl
  rcases eq_or_ne c '\x0c' with rfl | hform
  · exact hmark rfl rfl
  rcases eq_or_ne c '\n' with rfl | hline
  · exact hmark rfl rfl
  rcases eq_or_ne c '\r' with rfl | hreturn
  · exact hmark rfl rfl
  rcases eq_or_ne c '\t' with rfl | htab
  · exact hmark rfl rfl
  unfold Json.escape
  rw [if_neg hquote, if_neg hescape, if_neg hback, if_neg hform, if_neg hline, if_neg hreturn,
    if_neg htab]
  split
  · rename_i hcontrol
    rw [← ofUnit_toNat hcontrol]
    exact .unit (readUnit_control hcontrol) h
  · rename_i hcontrol
    exact .plain hquote hescape (Nat.le_of_not_lt hcontrol) h

theorem spellsText_quote (s : String) : SpellsText (some s) (quote s) := by
  have hpieces (cs : List Char) : SpellsPieces (cs.map .whole) (cs.flatMap escape) := by
    induction cs with
    | nil => exact .nil
    | cons c cs ih => exact ih.escape c
  have hjoin (cs : List Char) : joinPieces (cs.map .whole) = some cs := by
    induction cs with
    | nil => rfl
    | cons c cs ih => simp [joinPieces, ih]
  have hquoted := SpellsText.quoted (hpieces s.toList)
  rw [hjoin, Option.map_some, String.ofList_toList] at hquoted
  exact hquoted

theorem spellsWhole_toDigits (n : Nat) :
    SpellsWhole ((Nat.toDigits 10 n).map digitValue) (Nat.toDigits 10 n) := by
  have hdigits := isDigits_decimal n
  have hnumber := number_decimal n
  rw [decimal, String.toList_ofList] at hdigits hnumber
  cases hprint : Nat.toDigits 10 n with
  | nil => exact absurd hprint hdigits.1
  | cons c cs =>
    rw [hprint] at hdigits hnumber
    by_cases hzero : c = '0'
    · subst hzero
      cases cs with
      | nil => exact .zero
      | cons d ds =>
        -- a number below the power of ten that the other digits stay below has fewer digits
        have hlt : n < 10 ^ (d :: ds).length := by
          rw [← hnumber, ← List.singleton_append, number_append]
          simpa [number, digitValue] using
            number_lt fun x hx => hdigits.2 x (List.mem_cons_of_mem _ hx)
        have hlength := Nat.toDigits_length 10 n _ (Nat.succ_pos _) hlt
        rw [hprint] at hlength
        exact absurd hlength (by simp)
    · exact .digits hdigits hzero

theorem SpellsNumeral.natural (n : Nat) :
    SpellsNumeral ⟨false, (Nat.toDigits 10 n).map digitValue, none, none⟩ (decimal n).toList := by
  rw [decimal, String.toList_ofList]
  simpa using SpellsNumeral.positive (spellsWhole_toDigits n) .absent .absent

theorem SpellsNumeral.negated (n : Nat) :
    SpellsNumeral ⟨true, (Nat.toDigits 10 n).map digitValue, none, none⟩
      ("-" ++ decimal n).toList := by
  rw [decimal, String.toList_append, String.toList_ofList]
  simpa using SpellsNumeral.negative (spellsWhole_toDigits n) .absent .absent

/-! ## Containers -/

theorem spaces_nil : Spaces [] := fun _ h => absurd h List.not_mem_nil

theorem spaces_newline (depth : Nat) : Spaces (newline depth) := fun c hc => by
  rw [newline, List.mem_cons, List.mem_replicate] at hc
  obtain rfl | ⟨-, rfl⟩ := hc <;> rfl

section

variable (item : Json → List Char) {a b : List Char}

/-- Items are spelled by a printer that puts a comma before each but the first. -/
theorem spellsItems_printed (items : List Json → List Char) (ha : Spaces a) (hb : Spaces b)
    (hnil : items [] = a ++ [']'])
    (hcons : ∀ v vs, items (v :: vs) = ',' :: (b ++ (item v ++ items vs)))
    {v : Json} {vs : List Json} (h : ∀ w ∈ v :: vs, Spells w.reading (item w)) :
    ∃ cs, item v ++ items vs = cs ++ [']'] ∧ SpellsItems (readingItems (v :: vs)) cs := by
  have hv := h v List.mem_cons_self
  induction vs generalizing v with
  | nil => exact ⟨item v ++ a, by rw [hnil, List.append_assoc], .last hv ha⟩
  | cons w ws ih =>
    have hws (x : Json) (hx : x ∈ w :: ws) := h x (List.mem_cons_of_mem v hx)
    obtain ⟨ds, hds, hspells⟩ := ih hws (hws w List.mem_cons_self)
    refine ⟨item v ++ ([] ++ ',' :: (b ++ ds)), ?_, .more hv spaces_nil hb hspells⟩
    rw [hcons, hds]
    simp

theorem spells_arr_printed (items : List Json → List Char) (ha : Spaces a) (hb : Spaces b)
    (hnil : items [] = a ++ [']'])
    (hcons : ∀ v vs, items (v :: vs) = ',' :: (b ++ (item v ++ items vs)))
    {v : Json} {vs : List Json} (h : ∀ w ∈ v :: vs, Spells w.reading (item w)) :
    Spells (Json.arr (v :: vs)).reading ('[' :: (b ++ (item v ++ items vs))) := by
  obtain ⟨cs, hcs, hspells⟩ := spellsItems_printed item items ha hb hnil hcons h
  rw [hcs]
  exact .arr hb hspells

/-- Members are spelled by a printer that puts a comma before each but the first. -/
theorem spellsMembers_printed (members : List (String × Json) → List Char) {gap : List Char}
    (ha : Spaces a) (hb : Spaces b) (hgap : Spaces gap) (hnil : members [] = a ++ ['\x7d'])
    (hcons : ∀ m ms, members (m :: ms) =
      ',' :: (b ++ (quote m.1 ++ ':' :: (gap ++ (item m.2 ++ members ms)))))
    {m : String × Json} {ms : List (String × Json)}
    (h : ∀ n ∈ m :: ms, Spells n.2.reading (item n.2)) :
    ∃ cs, quote m.1 ++ ':' :: (gap ++ (item m.2 ++ members ms)) = cs ++ ['\x7d'] ∧
      SpellsMembers (readingMembers (m :: ms)) cs := by
  have hname := spellsText_quote m.1
  have hm := h m List.mem_cons_self
  induction ms generalizing m with
  | nil =>
    refine ⟨quote m.1 ++ ([] ++ ':' :: (gap ++ (item m.2 ++ a))), ?_,
      .last hname spaces_nil hgap hm ha⟩
    rw [hnil]
    simp
  | cons n ns ih =>
    have hns (x : String × Json) (hx : x ∈ n :: ns) := h x (List.mem_cons_of_mem m hx)
    obtain ⟨ds, hds, hspells⟩ := ih hns (spellsText_quote n.1) (hns n List.mem_cons_self)
    refine ⟨quote m.1 ++ ([] ++ ':' :: (gap ++ (item m.2 ++ ([] ++ ',' :: (b ++ ds))))), ?_,
      .more hname spaces_nil hgap hm spaces_nil hb hspells⟩
    rw [hcons, hds]
    simp

theorem spells_obj_printed (members : List (String × Json) → List Char) {gap : List Char}
    (ha : Spaces a) (hb : Spaces b) (hgap : Spaces gap) (hnil : members [] = a ++ ['\x7d'])
    (hcons : ∀ m ms, members (m :: ms) =
      ',' :: (b ++ (quote m.1 ++ ':' :: (gap ++ (item m.2 ++ members ms)))))
    {m : String × Json} {ms : List (String × Json)}
    (h : ∀ n ∈ m :: ms, Spells n.2.reading (item n.2)) : Spells (Json.obj (m :: ms)).reading
      ('\x7b' :: (b ++ (quote m.1 ++ ':' :: (gap ++ (item m.2 ++ members ms))))) := by
  obtain ⟨cs, hcs, hspells⟩ := spellsMembers_printed item members ha hb hgap hnil hcons h
  rw [hcs]
  exact .obj hb hspells

end

theorem spells_bool (b : Bool) : Spells (.bool b) (chars (.bool b)) := by
  cases b
  · exact .ofFalse
  · exact .ofTrue

theorem Exact.spells_chars {j : Json} (h : Exact j) : Spells j.reading j.chars := by
  induction h with
  | null => exact .null
  | bool b => exact spells_bool b
  | natural n => exact .num (.natural n)
  | negative n => exact .num (.negated n)
  | str s => exact .str (spellsText_quote s)
  | @arr items _ ih =>
    cases items with
    | nil => exact .emptyArr spaces_nil
    | cons v vs =>
      simpa [chars] using spells_arr_printed chars itemChars spaces_nil spaces_nil rfl
        (fun v vs => by simp [itemChars]) ih
  | @obj members _ ih =>
    cases members with
    | nil => exact .emptyObj spaces_nil
    | cons m ms =>
      simpa [chars] using spells_obj_printed chars memberChars spaces_nil spaces_nil spaces_nil rfl
        (fun m ms => by simp [memberChars]) ih

theorem Exact.spells_prettyChars {j : Json} (h : Exact j) (depth : Nat) :
    Spells j.reading (j.prettyChars depth) := by
  induction h generalizing depth with
  | null => exact .null
  | bool b => cases b <;> exact spells_bool _
  | natural n => exact .num (.natural n)
  | negative n => exact .num (.negated n)
  | str s => exact .str (spellsText_quote s)
  | @arr items _ ih =>
    cases items with
    | nil => exact .emptyArr spaces_nil
    | cons v vs =>
      simpa [prettyChars] using spells_arr_printed (prettyChars (depth + 1)) (prettyItems depth)
        (spaces_newline depth) (spaces_newline (depth + 1)) rfl
        (fun v vs => by simp [prettyItems]) fun w hw => ih w hw (depth + 1)
  | @obj members _ ih =>
    cases members with
    | nil => exact .emptyObj spaces_nil
    | cons m ms =>
      have hgap : Spaces [' '] := by simp [Spaces, isSpace]
      simpa [prettyChars] using spells_obj_printed (prettyChars (depth + 1)) (prettyMembers depth)
        (spaces_newline depth) (spaces_newline (depth + 1)) hgap rfl
        (fun m ms => by simp [prettyMembers]) fun m hm => ih m hm (depth + 1)

/-- A text that is nothing but a spelling. -/
theorem written_of_spells {r : Reading} {cs : List Char} (h : Spells r cs) :
    Written (String.ofList cs) r :=
  .among (by rw [String.toList_ofList, List.nil_append, List.append_nil]) spaces_nil h spaces_nil

theorem Exact.written_compact {j : Json} (h : Exact j) : Written j.compact j.reading :=
  written_of_spells h.spells_chars

theorem Exact.written_pretty {j : Json} (h : Exact j) : Written j.pretty j.reading :=
  written_of_spells (h.spells_prettyChars 0)

end TokenLaunch.Json
