import Mathlib.Data.List.Basic
import TokenLaunch.Proofs.Decimal

/-!
# The words of a source text

A reader that goes through a source text character by character and tells the words in it: names and
words of the language, but neither numbers nor what stands between quotes.  A text *spells* words if
a reader who begins between two words has told them at its end and is outside of quotes there, so
that the words of a text are found piece by piece.
-/

namespace TokenLaunch.Text

/-- Letters and digits, and what joins them to one word. -/
def isWordChar (c : Char) : Bool := c.isAlphanum || c == '_' || c == '.'

/-- A word that does not begin like a number. -/
def isWord (s : String) : Bool :=
  match s.toList with
  | [] => false
  | c :: cs => !c.isDigit && (c :: cs).all isWordChar

/-- Where a reader stands: between quotes, or outside of them behind a part of a word. -/
inductive Reader where
  | quoted
  | behind (part : List Char)
deriving DecidableEq

namespace Reader

/-- Between two words. -/
def start : Reader := behind []

/-- The word that ends with a part; numbers are none, and neither is nothing. -/
def ended : List Char → List String
  | [] => []
  | c :: cs => if c.isDigit then [] else [String.ofList (c :: cs)]

def next : Reader → Char → Reader
  | quoted, c => if c = '"' then start else quoted
  | behind part, c =>
    if isWordChar c then behind (part ++ [c]) else if c = '"' then quoted else start

/-- The words that a character ends. -/
def told : Reader → Char → List String
  | quoted, _ => []
  | behind part, c => if isWordChar c then [] else ended part

/-- The words told on the way through a text, and where the reader is then. -/
def read : Reader → List Char → List String × Reader
  | r, [] => ([], r)
  | r, c :: cs => (r.told c ++ (read (r.next c) cs).1, (read (r.next c) cs).2)

/-- The words that the end of a text ends. -/
def rest : Reader → List String
  | quoted => []
  | behind part => ended part

theorem read_append (r : Reader) (cs ds : List Char) :
    r.read (cs ++ ds) =
      ((r.read cs).1 ++ ((r.read cs).2.read ds).1, ((r.read cs).2.read ds).2) := by
  induction cs generalizing r with
  | nil => rfl
  | cons c cs ih => simp only [List.cons_append, read, ih, List.append_assoc]

theorem read_behind {part cs : List Char} (h : cs.all isWordChar = true) :
    (behind part).read cs = ([], behind (part ++ cs)) := by
  induction cs generalizing part with
  | nil => simp [read]
  | cons c cs ih =>
    rw [List.all_cons, Bool.and_eq_true] at h
    simp only [read, next, told, h.1, if_true, ih h.2, List.append_assoc, List.nil_append,
      List.cons_append]

/-- A character that is in no word ends the word before it. -/
theorem read_behind_cons {part cs : List Char} {c : Char} (h : isWordChar c = false) :
    (behind part).read (c :: cs) = (ended part ++ (start.read (c :: cs)).1,
      (start.read (c :: cs)).2) := by
  have hstart : ended [] = [] := rfl
  simp only [read, start, next, told, h, Bool.false_eq_true, if_false, hstart, List.nil_append]

end Reader

open Reader

/-- The words of a source text, in their order and as often as they stand in it. -/
def identifiers (s : String) : List String :=
  (start.read s.toList).1 ++ (start.read s.toList).2.rest

/-! ## Spelling -/

/-- A text that spells words, the last of which may go on behind it. -/
def Spells (s : String) (ws : List String) : Prop :=
  ∃ vs part, start.read s.toList = (vs, behind part) ∧ ws = vs ++ ended part

/-- A text that spells words and ends behind the last of them. -/
def Closes (s : String) (ws : List String) : Prop := start.read s.toList = (ws, start)

instance (s : String) (ws : List String) : Decidable (Closes s ws) :=
  inferInstanceAs (Decidable (_ = _))

/-- A text that begins with a character that is in no word. -/
def Divides (s : String) : Prop := s.toList.head?.any (!isWordChar ·) = true

instance (s : String) : Decidable (Divides s) := inferInstanceAs (Decidable (_ = _))

theorem Divides.append {s : String} (h : Divides s) (t : String) : Divides (s ++ t) := by
  unfold Divides at h ⊢
  rw [String.toList_append]
  cases hs : s.toList with
  | nil => simp [hs] at h
  | cons c cs => simpa [hs] using h

theorem Closes.spells {s : String} {ws : List String} (h : Closes s ws) : Spells s ws :=
  ⟨ws, [], h, by simp [ended]⟩

theorem Spells.identifiers {s : String} {ws : List String} (h : Spells s ws) :
    identifiers s = ws := by
  obtain ⟨vs, part, hread, rfl⟩ := h
  rw [Text.identifiers, hread]
  rfl

theorem spells_iff {s : String} {ws : List String} :
    Spells s ws ↔ (start.read s.toList).2 ≠ quoted ∧ Text.identifiers s = ws := by
  constructor
  · intro h
    refine ⟨?_, h.identifiers⟩
    obtain ⟨vs, part, hread, -⟩ := h
    rw [hread]
    nofun
  · rintro ⟨hquoted, rfl⟩
    cases hread : start.read s.toList with
    | mk vs r =>
      rw [hread] at hquoted
      cases r with
      | quoted => exact absurd rfl hquoted
      | behind part =>
        refine ⟨vs, part, hread, ?_⟩
        rw [Text.identifiers, hread]
        rfl

instance (s : String) (ws : List String) : Decidable (Spells s ws) :=
  decidable_of_iff' _ spells_iff

theorem Closes.append {s t : String} {ws vs : List String} (hs : Closes s ws) (ht : Closes t vs) :
    Closes (s ++ t) (ws ++ vs) := by
  rw [Closes, String.toList_append, read_append, hs, ht]

theorem Closes.append_spells {s t : String} {ws vs : List String} (hs : Closes s ws)
    (ht : Spells t vs) : Spells (s ++ t) (ws ++ vs) := by
  obtain ⟨us, part, hread, rfl⟩ := ht
  refine ⟨ws ++ us, part, ?_, by simp⟩
  rw [String.toList_append, read_append, hs, hread]

theorem Spells.read_append {s : String} {ws : List String} {cs : List Char} (hs : Spells s ws)
    (h : cs.head?.any (!isWordChar ·) = true) :
    start.read (s.toList ++ cs) = (ws ++ (start.read cs).1, (start.read cs).2) := by
  obtain ⟨us, part, hread, rfl⟩ := hs
  cases cs with
  | nil => cases h
  | cons c cs =>
    rw [Reader.read_append, hread, read_behind_cons (by simpa using h), List.append_assoc]

theorem Spells.append {s t : String} {ws vs : List String} (hs : Spells s ws) (ht : Spells t vs)
    (hdivides : Divides t) : Spells (s ++ t) (ws ++ vs) := by
  obtain ⟨us, part, hread, rfl⟩ := ht
  refine ⟨ws ++ us, part, ?_, by simp⟩
  rw [String.toList_append, hs.read_append hdivides, hread]

theorem Spells.append_closes {s t : String} {ws vs : List String} (hs : Spells s ws)
    (ht : Closes t vs) (hdivides : Divides t) : Closes (s ++ t) (ws ++ vs) := by
  rw [Closes, String.toList_append, hs.read_append hdivides, ht]

/-- A word spells itself. -/
theorem spells_of_isWord {s : String} (h : isWord s = true) : Spells s [s] := by
  unfold isWord at h
  split at h
  · cases h
  · rename_i c cs hs
    rw [Bool.and_eq_true] at h
    refine ⟨[], c :: cs, ?_, ?_⟩
    · rw [hs, start, read_behind h.2, List.nil_append]
    · have hc : c.isDigit = false := by simpa using h.1
      rw [ended, hc, ← hs, String.ofList_toList]
      rfl

/-- A number is no word. -/
theorem spells_decimal (n : Nat) : Spells (decimal n) [] := by
  obtain ⟨hne, hdigits⟩ := isDigits_decimal n
  have hall : (decimal n).toList.all isWordChar = true := by
    refine List.all_eq_true.mpr fun c hc => ?_
    rw [isWordChar, Char.isAlphanum, hdigits c hc, Bool.or_true, Bool.true_or, Bool.true_or]
  obtain ⟨c, cs, hcs⟩ := List.exists_cons_of_ne_nil hne
  refine ⟨[], (decimal n).toList, ?_, ?_⟩
  · rw [start, read_behind hall, List.nil_append]
  · rw [hcs, ended, hdigits c (by simp [hcs])]
    rfl

/-- What stands between quotes is no word. -/
theorem read_quoted {cs : List Char} (h : '"' ∉ cs) : quoted.read cs = ([], quoted) := by
  induction cs with
  | nil => rfl
  | cons c cs ih =>
    simp only [List.mem_cons, not_or] at h
    simp only [Reader.read, next, told, Ne.symm h.1, if_false, ih h.2, List.append_nil]

theorem closes_quoted {s : String} (h : '"' ∉ s.toList) : Closes ("\"" ++ s ++ "\"") [] := by
  have hopen : start.read "\"".toList = ([], quoted) := rfl
  have hclose : quoted.read "\"".toList = ([], start) := rfl
  rw [Closes, String.toList_append, String.toList_append, Reader.read_append, Reader.read_append,
    hopen, read_quoted h, hclose]
  rfl

/-! ## Lists of texts -/

/-- Texts that spell words one behind the other. -/
inductive SpellAll : List String → List String → Prop
  | nil : SpellAll [] []
  | cons {s : String} {ws : List String} {ss vs : List String} (hs : Spells s ws)
      (h : SpellAll ss vs) : SpellAll (s :: ss) (ws ++ vs)

theorem SpellAll.singleton {s : String} {ws : List String} (h : Spells s ws) :
    SpellAll [s] ws := by
  simpa using SpellAll.cons h .nil

theorem SpellAll.append {ss ts ws vs : List String} (hs : SpellAll ss ws) (ht : SpellAll ts vs) :
    SpellAll (ss ++ ts) (ws ++ vs) := by
  induction hs with
  | nil => exact ht
  | cons hs _ ih =>
    rw [List.append_assoc]
    exact .cons hs ih

theorem spellAll_map {α : Type} {text : α → String} {words : α → List String} {xs : List α}
    (h : ∀ x ∈ xs, Spells (text x) (words x)) : SpellAll (xs.map text) (xs.flatMap words) := by
  induction xs with
  | nil => exact .nil
  | cons x xs ih =>
    exact .cons (h x List.mem_cons_self) (ih fun y hy => h y (List.mem_cons_of_mem _ hy))

/-- Blanks before the texts tell nothing. -/
theorem SpellAll.map_append {ss ws : List String} {blanks : String} (h : SpellAll ss ws)
    (hblanks : Closes blanks []) : SpellAll (ss.map (blanks ++ ·)) ws := by
  induction h with
  | nil => exact .nil
  | cons hs _ ih => exact .cons (hblanks.append_spells hs) ih

/-- Texts that a separator keeps apart spell what each of them spells. -/
theorem SpellAll.intercalate {ss ws : List String} {sep : String} (h : SpellAll ss ws)
    (hsep : Closes sep []) (hdivides : Divides sep) : Spells (sep.intercalate ss) ws := by
  induction h with
  | nil => exact ⟨[], [], by simp [Reader.read, start], rfl⟩
  | @cons s ws ss vs hs htail ih =>
    cases htail with
    | nil => simpa using hs
    | cons =>
      rw [String.intercalate_cons_cons, String.append_assoc]
      exact hs.append (hsep.append_spells ih) (hdivides.append _)

end TokenLaunch.Text
