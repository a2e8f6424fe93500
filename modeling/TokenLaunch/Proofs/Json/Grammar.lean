import TokenLaunch.Json.Reading
import TokenLaunch.Proofs.Decimal

/-!
# The grammar of JSON

How the tree of a text is spelled: numbers with and without fraction and exponent, characters that
stand for themselves or are escaped, and white space wherever it may be.  Whatever is spelled is
read back whole, up to the place where it ends.
-/

namespace TokenLaunch.Json

open Text

/-! ## Spellings -/

def Spaces (cs : List Char) : Prop := ∀ c ∈ cs, isSpace c = true

/-- A zero stands alone. -/
inductive SpellsWhole : List Nat → List Char → Prop
  | zero : SpellsWhole [0] ['0']
  | digits {c : Char} {cs : List Char} (h : IsDigits (c :: cs)) (hzero : c ≠ '0') :
      SpellsWhole ((c :: cs).map digitValue) (c :: cs)

inductive SpellsFraction : Option (List Nat) → List Char → Prop
  | absent : SpellsFraction none []
  | present {cs : List Char} (h : IsDigits cs) :
      SpellsFraction (some (cs.map digitValue)) ('.' :: cs)

inductive SpellsExponent : Option Int → List Char → Prop
  | absent : SpellsExponent none []
  | unsigned {e : Char} {cs : List Char} (he : e = 'e' ∨ e = 'E') (h : IsDigits cs) :
      SpellsExponent (some (number cs)) (e :: cs)
  | positive {e : Char} {cs : List Char} (he : e = 'e' ∨ e = 'E') (h : IsDigits cs) :
      SpellsExponent (some (number cs)) (e :: '+' :: cs)
  | negative {e : Char} {cs : List Char} (he : e = 'e' ∨ e = 'E') (h : IsDigits cs) :
      SpellsExponent (some (-(number cs : Int))) (e :: '-' :: cs)

inductive SpellsNumeral : Numeral → List Char → Prop
  | positive {whole fraction exponent ws fs es} (hw : SpellsWhole whole ws)
      (hf : SpellsFraction fraction fs) (he : SpellsExponent exponent es) :
      SpellsNumeral ⟨false, whole, fraction, exponent⟩ (ws ++ (fs ++ es))
  | negative {whole fraction exponent ws fs es} (hw : SpellsWhole whole ws)
      (hf : SpellsFraction fraction fs) (he : SpellsExponent exponent es) :
      SpellsNumeral ⟨true, whole, fraction, exponent⟩ ('-' :: (ws ++ (fs ++ es)))

/-- The characters between two quotes. -/
inductive SpellsPieces : List Piece → List Char → Prop
  | nil : SpellsPieces [] []
  | plain {c : Char} {ps : List Piece} {cs : List Char} (hquote : c ≠ '"') (hescape : c ≠ '\\')
      (hcontrol : 32 ≤ c.toNat) (h : SpellsPieces ps cs) : SpellsPieces (.whole c :: ps) (c :: cs)
  | escaped {e c : Char} {ps : List Piece} {cs : List Char} (he : escaped e = some c)
      (h : SpellsPieces ps cs) : SpellsPieces (.whole c :: ps) ('\\' :: e :: cs)
  | unit {a b c d : Char} {u : Nat} {ps : List Piece} {cs : List Char}
      (hu : readUnit a b c d = some u) (h : SpellsPieces ps cs) :
      SpellsPieces (.ofUnit u :: ps) ('\\' :: 'u' :: a :: b :: c :: d :: cs)

inductive SpellsText : Option String → List Char → Prop
  | quoted {ps : List Piece} {cs : List Char} (h : SpellsPieces ps cs) :
      SpellsText ((joinPieces ps).map String.ofList) ('"' :: (cs ++ ['"']))

mutual
/-- A value and a text for it that has no white space at its ends. -/
inductive Spells : Reading → List Char → Prop
  | null : Spells .null ['n', 'u', 'l', 'l']
  | ofTrue : Spells (.bool true) ['t', 'r', 'u', 'e']
  | ofFalse : Spells (.bool false) ['f', 'a', 'l', 's', 'e']
  | num {n : Numeral} {cs : List Char} (h : SpellsNumeral n cs) : Spells (.num n) cs
  | str {s : Option String} {cs : List Char} (h : SpellsText s cs) : Spells (.str s) cs
  | emptyArr {b : List Char} (hb : Spaces b) : Spells (.arr []) ('[' :: (b ++ [']']))
  | arr {items : List Reading} {b cs : List Char} (hb : Spaces b) (h : SpellsItems items cs) :
      Spells (.arr items) ('[' :: (b ++ (cs ++ [']'])))
  | emptyObj {b : List Char} (hb : Spaces b) : Spells (.obj []) ('\x7b' :: (b ++ ['\x7d']))
  | obj {members : List (Option String × Reading)} {b cs : List Char} (hb : Spaces b)
      (h : SpellsMembers members cs) : Spells (.obj members) ('\x7b' :: (b ++ (cs ++ ['\x7d'])))

/-- One item or more, with the white space after each. -/
inductive SpellsItems : List Reading → List Char → Prop
  | last {r : Reading} {cs a : List Char} (h : Spells r cs) (ha : Spaces a) :
      SpellsItems [r] (cs ++ a)
  | more {r : Reading} {rs : List Reading} {cs a b ds : List Char} (h : Spells r cs)
      (ha : Spaces a) (hb : Spaces b) (hs : SpellsItems rs ds) :
      SpellsItems (r :: rs) (cs ++ (a ++ ',' :: (b ++ ds)))

/-- One member or more, with the white space after each. -/
inductive SpellsMembers : List (Option String × Reading) → List Char → Prop
  | last {name : Option String} {r : Reading} {ns a₁ b₁ cs a : List Char}
      (hname : SpellsText name ns) (ha₁ : Spaces a₁) (hb₁ : Spaces b₁) (h : Spells r cs)
      (ha : Spaces a) : SpellsMembers [(name, r)] (ns ++ (a₁ ++ ':' :: (b₁ ++ (cs ++ a))))
  | more {name : Option String} {r : Reading} {ms : List (Option String × Reading)}
      {ns a₁ b₁ cs a b ds : List Char} (hname : SpellsText name ns) (ha₁ : Spaces a₁)
      (hb₁ : Spaces b₁) (h : Spells r cs) (ha : Spaces a) (hb : Spaces b)
      (hs : SpellsMembers ms ds) : SpellsMembers ((name, r) :: ms)
        (ns ++ (a₁ ++ ':' :: (b₁ ++ (cs ++ (a ++ ',' :: (b ++ ds))))))
end

/-- A whole text: a value among white space. -/
inductive Written (s : String) (r : Reading) : Prop
  | among {a cs b : List Char} (hs : s.toList = a ++ (cs ++ b)) (ha : Spaces a) (h : Spells r cs)
      (hb : Spaces b)

/-! ## White space and digits -/

theorem skipSpace_append {b cs : List Char} (hb : Spaces b) :
    skipSpace (b ++ cs) = skipSpace cs := List.dropWhile_append_of_pos hb

theorem skipSpace_cons {c : Char} (hc : isSpace c = false) (cs : List Char) :
    skipSpace (c :: cs) = c :: cs := List.dropWhile_cons_of_neg (by simp [hc])

theorem skipSpace_eq_nil {b : List Char} (hb : Spaces b) : skipSpace b = [] := by
  have hskip : skipSpace (b ++ []) = [] := skipSpace_append hb
  rwa [List.append_nil] at hskip

theorem takeDigits_append {cs rest : List Char} (hcs : ∀ c ∈ cs, c.isDigit = true)
    (hrest : ∀ c ∈ rest.head?, c.isDigit = false) :
    takeDigits (cs ++ rest) = (cs.map digitValue, rest) := by
  induction cs with
  | nil =>
    cases rest with
    | nil => rfl
    | cons c rest => simp [takeDigits, hrest c rfl]
  | cons c cs ih =>
    have hc := hcs c List.mem_cons_self
    simp [takeDigits, hc, ih fun d hd => hcs d (List.mem_cons_of_mem c hd)]

theorem ofDigits_map (cs : List Char) : ofDigits (cs.map digitValue) = number cs :=
  List.foldl_map

theorem digitValue_ne_zero {c : Char} (h : c.isDigit = true) (hzero : c ≠ '0') :
    digitValue c ≠ 0 := by
  have hle : 48 ≤ c.toNat := by
    simp only [Char.isDigit, Bool.and_eq_true, decide_eq_true_eq] at h
    exact h.1
  have hne : c.toNat ≠ 48 := fun h => hzero (Char.toNat_inj.mp h)
  have hvalue : digitValue c = c.toNat - 48 := rfl
  omega

/-! ## Numbers -/

/-- What follows a number does not go on with it. -/
def Ends (rest : List Char) : Prop :=
  ∀ c ∈ rest.head?, c.isDigit = false ∧ c ≠ '.' ∧ c ≠ 'e' ∧ c ≠ 'E'

variable {rest : List Char}

theorem ends_nil : Ends [] := fun _ h => by cases h

theorem ends_cons {c : Char} (hdigit : c.isDigit = false) (hpoint : c ≠ '.') (he : c ≠ 'e')
    (hE : c ≠ 'E') (cs : List Char) : Ends (c :: cs) := fun d hd => by
  obtain rfl := Option.some.inj hd
  exact ⟨hdigit, hpoint, he, hE⟩

theorem Spaces.ends {a : List Char} (ha : Spaces a) (hrest : Ends rest) : Ends (a ++ rest) := by
  cases a with
  | nil => exact hrest
  | cons c a =>
    have hc := ha c List.mem_cons_self
    simp only [isSpace, Bool.or_eq_true, beq_iff_eq] at hc
    obtain ((rfl | rfl) | rfl) | rfl := hc <;>
      exact ends_cons rfl (by decide) (by decide) (by decide) _

theorem SpellsWhole.read {ds : List Nat} {cs : List Char} (h : SpellsWhole ds cs)
    (hrest : ∀ c ∈ rest.head?, c.isDigit = false) : readWhole (cs ++ rest) = some (ds, rest) := by
  cases h with
  | zero =>
    rw [readWhole, takeDigits_append (List.forall_mem_singleton.mpr rfl) hrest]
    rfl
  | @digits c cs h hzero =>
    have hvalue := digitValue_ne_zero (h.2 c List.mem_cons_self) hzero
    rw [readWhole, takeDigits_append h.2 hrest]
    split
    · rename_i hnil
      simp at hnil
    · rename_i hcons
      simp [hvalue] at hcons
    · rename_i hpair
      rw [← hpair]

theorem SpellsFraction.read {fraction : Option (List Nat)} {cs : List Char}
    (h : SpellsFraction fraction cs) (hdigit : ∀ c ∈ rest.head?, c.isDigit = false)
    (hpoint : ∀ c ∈ rest.head?, c ≠ '.') :
    readFraction (cs ++ rest) = some (fraction, rest) := by
  cases h with
  | absent =>
    rw [List.nil_append]
    unfold readFraction
    split
    · exact absurd rfl (hpoint '.' rfl)
    · rfl
  | @present cs h =>
    have htake := takeDigits_append h.2 hdigit
    rw [List.cons_append, readFraction, htake]
    split
    · rename_i hnil
      simp [h.1] at hnil
    · rename_i hpair
      rw [← (Prod.mk.inj hpair).1, ← (Prod.mk.inj hpair).2]

theorem readPower_append (negative : Bool) {cs : List Char} (h : IsDigits cs)
    (hrest : ∀ c ∈ rest.head?, c.isDigit = false) : readPower negative (cs ++ rest) =
      some (some (if negative then -(number cs : Int) else number cs), rest) := by
  rw [readPower, takeDigits_append h.2 hrest]
  split
  · rename_i hnil
    simp [h.1] at hnil
  · rename_i hpair
    rw [← (Prod.mk.inj hpair).1, ← (Prod.mk.inj hpair).2, ofDigits_map]

theorem SpellsExponent.read {exponent : Option Int} {cs : List Char}
    (h : SpellsExponent exponent cs) (hrest : Ends rest) :
    readExponent (cs ++ rest) = some (exponent, rest) := by
  have hdigit : ∀ c ∈ rest.head?, c.isDigit = false := fun c hc => (hrest c hc).1
  cases h with
  | absent =>
    cases rest with
    | nil => rfl
    | cons c rest =>
      obtain ⟨-, -, he, hE⟩ := hrest c rfl
      simp [readExponent, he, hE]
  | @unsigned e cs he h =>
    obtain ⟨c, cs, rfl⟩ := List.exists_cons_of_ne_nil h.1
    have hc := h.2 c List.mem_cons_self
    rw [List.cons_append, readExponent, if_pos he]
    · exact readPower_append false h hdigit
    · rintro more hplus
      obtain ⟨rfl, -⟩ := List.cons.inj hplus
      cases hc
    · rintro more hminus
      obtain ⟨rfl, -⟩ := List.cons.inj hminus
      cases hc
  | @positive e cs he h =>
    rw [List.cons_append, List.cons_append, readExponent, if_pos he]
    exact readPower_append false h hdigit
  | @negative e cs he h =>
    rw [List.cons_append, List.cons_append, readExponent, if_pos he]
    exact readPower_append true h hdigit

theorem readUnsigned_append {negative : Bool} {whole : List Nat} {fraction : Option (List Nat)}
    {exponent : Option Int} {ws fs es : List Char} (hw : SpellsWhole whole ws)
    (hf : SpellsFraction fraction fs) (he : SpellsExponent exponent es) (hrest : Ends rest) :
    readUnsigned negative (ws ++ (fs ++ es) ++ rest) =
      some (⟨negative, whole, fraction, exponent⟩, rest) := by
  have hexponent (c : Char) (hc : c ∈ (es ++ rest).head?) : c.isDigit = false ∧ c ≠ '.' := by
    cases he with
    | absent => exact ⟨(hrest c hc).1, (hrest c hc).2.1⟩
    | unsigned he | positive he | negative he =>
      obtain rfl := Option.some.inj hc
      obtain rfl | rfl := he <;> exact ⟨rfl, by decide⟩
  have hfraction (c : Char) (hc : c ∈ (fs ++ (es ++ rest)).head?) : c.isDigit = false := by
    cases hf with
    | absent => exact (hexponent c hc).1
    | present => exact Option.some.inj hc ▸ rfl
  have hwhole := hw.read hfraction
  have hpoint := hf.read (fun c hc => (hexponent c hc).1) fun c hc => (hexponent c hc).2
  simp [readUnsigned, hwhole, hpoint, he.read hrest]

theorem SpellsWhole.exists_cons {ds : List Nat} {cs : List Char} (h : SpellsWhole ds cs) :
    ∃ c more, cs = c :: more ∧ c.isDigit = true := by
  cases h with
  | zero => exact ⟨'0', [], rfl, rfl⟩
  | digits h => exact ⟨_, _, rfl, h.2 _ List.mem_cons_self⟩

/-- A number begins with a digit or a sign. -/
theorem SpellsNumeral.exists_cons {n : Numeral} {cs : List Char} (h : SpellsNumeral n cs) :
    ∃ c more, cs = c :: more ∧ (c.isDigit = true ∨ c = '-') := by
  cases h with
  | positive hw =>
    obtain ⟨c, more, rfl, hc⟩ := hw.exists_cons
    exact ⟨c, _, rfl, .inl hc⟩
  | negative => exact ⟨'-', _, rfl, .inr rfl⟩

theorem SpellsNumeral.read {n : Numeral} {cs : List Char} (h : SpellsNumeral n cs)
    (hrest : Ends rest) : readNumeral (cs ++ rest) = some (n, rest) := by
  cases h with
  | positive hw hf he =>
    obtain ⟨c, more, rfl, hc⟩ := hw.exists_cons
    rw [← readUnsigned_append hw hf he hrest]
    unfold readNumeral
    split
    · rename_i hminus
      obtain ⟨rfl, -⟩ := List.cons.inj hminus
      cases hc
    · rfl
  | negative hw hf he =>
    rw [List.cons_append, readNumeral, readUnsigned_append hw hf he hrest]

/-! ## Texts in quotes -/

theorem SpellsPieces.read {ps : List Piece} {cs : List Char} (h : SpellsPieces ps cs) :
    readPieces (cs ++ '"' :: rest) = some (ps, rest) := by
  induction h with
  | nil => rfl
  | @plain c ps cs hquote hescape hcontrol h ih =>
    simp [readPieces, hescape, hcontrol, ih]
  | @escaped e c ps cs he h ih =>
    have hu : e ≠ 'u' := by
      rintro rfl
      cases he
    simp [readPieces, hu, he, ih]
  | @unit a b c d u ps cs hu h ih =>
    simp [readPieces, hu, ih]

theorem SpellsText.read {s : Option String} {cs : List Char} (h : SpellsText s cs)
    (rest : List Char) : ∃ more, cs = '"' :: more ∧ readText (more ++ rest) = some (s, rest) := by
  cases h with
  | @quoted ps cs h =>
    refine ⟨cs ++ ['"'], rfl, ?_⟩
    rw [List.append_assoc, readText, List.singleton_append, h.read]
    rfl

/-! ## Values -/

/-- A number begins like no other value. -/
theorem begins_of_numeral {c : Char} (h : c.isDigit = true ∨ c = '-') : isSpace c = false ∧
    c ∉ ['n', 't', 'f', '"', '[', ']', '\x7b', '\x7d'] := by
  have hne {d : Char} (hd : d.isDigit = false) (hminus : d ≠ '-') : c ≠ d := by
    rintro rfl
    rcases h with h | h
    · rw [hd] at h
      cases h
    · exact hminus h
  simp [isSpace, hne]

theorem Spells.exists_cons {r : Reading} {cs : List Char} (h : Spells r cs) :
    ∃ c more, cs = c :: more ∧ isSpace c = false ∧ c ≠ ']' := by
  cases h with
  | num h =>
    obtain ⟨c, more, rfl, hc⟩ := h.exists_cons
    obtain ⟨hspace, hne⟩ := begins_of_numeral hc
    simp only [List.mem_cons, not_or] at hne
    exact ⟨c, more, rfl, hspace, hne.2.2.2.2.2.1⟩
  | str h =>
    obtain ⟨more, rfl, -⟩ := h.read []
    exact ⟨'"', more, rfl, by decide⟩
  | null | ofTrue | ofFalse | emptyArr | arr | emptyObj | obj => exact ⟨_, _, rfl, by decide⟩

theorem SpellsItems.exists_cons {rs : List Reading} {cs : List Char} (h : SpellsItems rs cs) :
    ∃ c more, cs = c :: more ∧ isSpace c = false ∧ c ≠ ']' := by
  cases h with
  | last h | more h =>
    obtain ⟨c, more, rfl, hc⟩ := h.exists_cons
    exact ⟨c, _, rfl, hc⟩

theorem SpellsMembers.exists_cons {ms : List (Option String × Reading)} {cs : List Char}
    (h : SpellsMembers ms cs) : ∃ more, cs = '"' :: more := by
  cases h with
  | last hname | more hname =>
    cases hname
    exact ⟨_, rfl⟩

section Steps

attribute [local simp] readValue readItems readMembers

theorem readValue_spaces {b : List Char} (hb : Spaces b) (fuel : Nat) (cs : List Char) :
    readValue fuel (b ++ cs) = readValue fuel cs := by
  cases fuel with
  | zero => rfl
  | succ fuel => rw [readValue, readValue, skipSpace_append hb]

theorem readMembers_spaces {b : List Char} (hb : Spaces b) (fuel : Nat) (cs : List Char) :
    readMembers fuel (b ++ cs) = readMembers fuel cs := by
  cases fuel with
  | zero => rfl
  | succ fuel => rw [readMembers, readMembers, skipSpace_append hb]

theorem readItems_spaces {b : List Char} (hb : Spaces b) (fuel : Nat) (cs : List Char) :
    readItems fuel (b ++ cs) = readItems fuel cs := by
  cases fuel with
  | zero => rfl
  | succ fuel => rw [readItems, readItems, readValue_spaces hb]

theorem readValue_num {n : Numeral} {cs : List Char} (h : SpellsNumeral n cs) (hrest : Ends rest)
    (fuel : Nat) : readValue (fuel + 1) (cs ++ rest) = (.num n, rest) := by
  have hread := h.read hrest
  obtain ⟨c, more, rfl, hc⟩ := h.exists_cons
  obtain ⟨hspace, hne⟩ := begins_of_numeral hc
  simp only [List.mem_cons, not_or] at hne
  rw [List.cons_append] at hread
  rw [readValue, List.cons_append, skipSpace_cons hspace]
  simp [hne, hread]

theorem readValue_str {s : Option String} {cs : List Char} (h : SpellsText s cs) (fuel : Nat) :
    readValue (fuel + 1) (cs ++ rest) = (.str s, rest) := by
  obtain ⟨more, rfl, hread⟩ := h.read rest
  rw [readValue, List.cons_append, skipSpace_cons (by decide)]
  simp [hread]

theorem readValue_emptyArr {b : List Char} (hb : Spaces b) (fuel : Nat) :
    readValue (fuel + 1) ('[' :: (b ++ ']' :: rest)) = (.arr [], rest) := by
  have hskip : skipSpace (b ++ ']' :: rest) = ']' :: rest := skipSpace_append hb
  rw [readValue, skipSpace_cons (by decide)]
  simp [hskip]

theorem readValue_arr {c : Char} {b : List Char} (hb : Spaces b) (hspace : isSpace c = false)
    (hbracket : c ≠ ']') (cs : List Char) (fuel : Nat) :
    readValue (fuel + 1) ('[' :: (b ++ c :: cs)) =
      (.arr (readItems fuel (c :: cs)).1, (readItems fuel (c :: cs)).2) := by
  have hskip : skipSpace (b ++ c :: cs) = c :: cs := by
    rw [skipSpace_append hb, skipSpace_cons hspace]
  rw [readValue, skipSpace_cons (by decide)]
  simp [hskip, hbracket]

theorem readValue_emptyObj {b : List Char} (hb : Spaces b) (fuel : Nat) :
    readValue (fuel + 1) ('\x7b' :: (b ++ '\x7d' :: rest)) = (.obj [], rest) := by
  have hskip : skipSpace (b ++ '\x7d' :: rest) = '\x7d' :: rest := skipSpace_append hb
  rw [readValue, skipSpace_cons (by decide)]
  simp [hskip]

theorem readValue_obj {b : List Char} (hb : Spaces b) (cs : List Char) (fuel : Nat) :
    readValue (fuel + 1) ('\x7b' :: (b ++ '"' :: cs)) =
      (.obj (readMembers fuel ('"' :: cs)).1, (readMembers fuel ('"' :: cs)).2) := by
  have hskip : skipSpace (b ++ '"' :: cs) = '"' :: cs := skipSpace_append hb
  rw [readValue, skipSpace_cons (by decide)]
  simp [hskip]

theorem readItems_last {r : Reading} {cs a : List Char} {fuel : Nat}
    (hvalue : readValue fuel cs = (r, a ++ ']' :: rest)) (ha : Spaces a) :
    readItems (fuel + 1) cs = ([r], rest) := by
  have hskip : skipSpace (a ++ ']' :: rest) = ']' :: rest := skipSpace_append ha
  simp [hvalue, hskip]

theorem readItems_more {r : Reading} {cs a ds : List Char} {fuel : Nat}
    (hvalue : readValue fuel cs = (r, a ++ ',' :: ds)) (ha : Spaces a) :
    readItems (fuel + 1) cs = (r :: (readItems fuel ds).1, (readItems fuel ds).2) := by
  have hskip : skipSpace (a ++ ',' :: ds) = ',' :: ds := skipSpace_append ha
  simp [hvalue, hskip]

theorem readMembers_last {name : Option String} {r : Reading} {ns a₁ cs a : List Char}
    {fuel : Nat} (hname : SpellsText name ns) (ha₁ : Spaces a₁)
    (hvalue : readValue fuel cs = (r, a ++ '\x7d' :: rest)) (ha : Spaces a) :
    readMembers (fuel + 1) (ns ++ (a₁ ++ ':' :: cs)) = ([(name, r)], rest) := by
  obtain ⟨more, rfl, hread⟩ := hname.read (a₁ ++ ':' :: cs)
  have hcolon : skipSpace (a₁ ++ ':' :: cs) = ':' :: cs := skipSpace_append ha₁
  have hskip : skipSpace (a ++ '\x7d' :: rest) = '\x7d' :: rest := skipSpace_append ha
  rw [readMembers, List.cons_append, skipSpace_cons (by decide)]
  simp [hread, hcolon, hvalue, hskip]

theorem readMembers_more {name : Option String} {r : Reading} {ns a₁ cs a ds : List Char}
    {fuel : Nat} (hname : SpellsText name ns) (ha₁ : Spaces a₁)
    (hvalue : readValue fuel cs = (r, a ++ ',' :: ds)) (ha : Spaces a) :
    readMembers (fuel + 1) (ns ++ (a₁ ++ ':' :: cs)) =
      ((name, r) :: (readMembers fuel ds).1, (readMembers fuel ds).2) := by
  obtain ⟨more, rfl, hread⟩ := hname.read (a₁ ++ ':' :: cs)
  have hcolon : skipSpace (a₁ ++ ':' :: cs) = ':' :: cs := skipSpace_append ha₁
  have hskip : skipSpace (a ++ ',' :: ds) = ',' :: ds := skipSpace_append ha
  rw [readMembers, List.cons_append, skipSpace_cons (by decide)]
  simp [hread, hcolon, hvalue, hskip]

end Steps

theorem Spaces.ends_bracket {a : List Char} (ha : Spaces a) (rest : List Char) :
    Ends (a ++ ']' :: rest) :=
  ha.ends (ends_cons rfl (by decide) (by decide) (by decide) rest)

theorem Spaces.ends_brace {a : List Char} (ha : Spaces a) (rest : List Char) :
    Ends (a ++ '\x7d' :: rest) :=
  ha.ends (ends_cons rfl (by decide) (by decide) (by decide) rest)

theorem Spaces.ends_comma {a : List Char} (ha : Spaces a) (rest : List Char) :
    Ends (a ++ ',' :: rest) :=
  ha.ends (ends_cons rfl (by decide) (by decide) (by decide) rest)

-- By induction on the spelling: the fuel bounds the length of what is still to be read, and each
-- bracket, brace and comma uses up as much of the one as of the other.
mutual

theorem Spells.read {r : Reading} {cs : List Char} {fuel : Nat} (h : Spells r cs)
    (hfuel : cs.length ≤ fuel) {rest : List Char} (hrest : Ends rest) :
    readValue fuel (cs ++ rest) = (r, rest) := by
  obtain ⟨fuel, rfl⟩ : ∃ n, fuel = n + 1 := by
    obtain ⟨c, more, rfl, -⟩ := h.exists_cons
    exact Nat.exists_eq_add_one.mpr (Nat.lt_of_lt_of_le (by simp) hfuel)
  match h with
  | .null => rfl
  | .ofTrue => rfl
  | .ofFalse => rfl
  | .num h => exact readValue_num h hrest fuel
  | .str h => exact readValue_str h fuel
  | .emptyArr hb => simpa using readValue_emptyArr hb fuel
  | @Spells.arr items b cs hb h =>
    have hlength : cs.length < fuel := by
      simp only [List.length_cons, List.length_append, List.length_nil] at hfuel
      omega
    have hitems := h.read hlength rest
    obtain ⟨c, more, rfl, hspace, hbracket⟩ := h.exists_cons
    have harr := readValue_arr hb hspace hbracket (more ++ ']' :: rest) fuel
    rw [List.cons_append] at hitems
    rw [hitems] at harr
    simpa using harr
  | .emptyObj hb => simpa using readValue_emptyObj hb fuel
  | @Spells.obj members b cs hb h =>
    have hlength : cs.length < fuel := by
      simp only [List.length_cons, List.length_append, List.length_nil] at hfuel
      omega
    have hmembers := h.read hlength rest
    obtain ⟨more, rfl⟩ := h.exists_cons
    have hobj := readValue_obj hb (more ++ '\x7d' :: rest) fuel
    rw [List.cons_append] at hmembers
    rw [hmembers] at hobj
    simpa using hobj

theorem SpellsItems.read {rs : List Reading} {cs : List Char} {fuel : Nat}
    (h : SpellsItems rs cs) (hfuel : cs.length < fuel) (rest : List Char) :
    readItems fuel (cs ++ ']' :: rest) = (rs, rest) := by
  obtain ⟨fuel, rfl⟩ : ∃ n, fuel = n + 1 := Nat.exists_eq_add_one.mpr (Nat.zero_lt_of_lt hfuel)
  match h with
  | @SpellsItems.last r cs a h ha =>
    have hlength : cs.length ≤ fuel := by
      rw [List.length_append] at hfuel
      omega
    rw [List.append_assoc]
    exact readItems_last (h.read hlength (ha.ends_bracket rest)) ha
  | @SpellsItems.more r rs cs a b ds h ha hb hs =>
    have hlength : cs.length ≤ fuel ∧ ds.length < fuel := by
      simp only [List.length_append, List.length_cons] at hfuel
      omega
    have hvalue := h.read hlength.1 (ha.ends_comma (b ++ (ds ++ ']' :: rest)))
    have hitems := readItems_more hvalue ha
    rw [readItems_spaces hb, hs.read hlength.2 rest] at hitems
    simpa using hitems

theorem SpellsMembers.read {ms : List (Option String × Reading)} {cs : List Char}
    {fuel : Nat} (h : SpellsMembers ms cs) (hfuel : cs.length < fuel) (rest : List Char) :
    readMembers fuel (cs ++ '\x7d' :: rest) = (ms, rest) := by
  obtain ⟨fuel, rfl⟩ : ∃ n, fuel = n + 1 := Nat.exists_eq_add_one.mpr (Nat.zero_lt_of_lt hfuel)
  match h with
  | @SpellsMembers.last name r ns a₁ b₁ cs a hname ha₁ hb₁ h ha =>
    have hlength : cs.length ≤ fuel := by
      simp only [List.length_append, List.length_cons] at hfuel
      omega
    have hvalue := h.read hlength (ha.ends_brace rest)
    rw [← readValue_spaces hb₁] at hvalue
    simpa using readMembers_last hname ha₁ hvalue ha
  | @SpellsMembers.more name r ms ns a₁ b₁ cs a b ds hname ha₁ hb₁ h ha hb hs =>
    have hlength : cs.length ≤ fuel ∧ ds.length < fuel := by
      simp only [List.length_append, List.length_cons] at hfuel
      omega
    have hvalue := h.read hlength.1 (ha.ends_comma (b ++ (ds ++ '\x7d' :: rest)))
    rw [← readValue_spaces hb₁] at hvalue
    have hmembers := readMembers_more hname ha₁ hvalue ha
    rw [readMembers_spaces hb, hs.read hlength.2 rest] at hmembers
    simpa using hmembers

end

theorem Written.ofText {s : String} {r : Reading} (h : Written s r) :
    Document.ofText s = ⟨r, false⟩ := by
  obtain @⟨a, cs, b, hs, ha, h, hb⟩ := h
  have hlength : cs.length ≤ 2 * s.toList.length + 2 := by
    simp only [hs, List.length_append]
    omega
  have hread := h.read hlength (hb.ends ends_nil)
  rw [← readValue_spaces ha, List.append_nil, ← hs] at hread
  simp [Document.ofText, hread, skipSpace_eq_nil hb]

/-- A text has one tree. -/
theorem Written.unique {s : String} {r r' : Reading} (h : Written s r) (h' : Written s r') :
    r = r' := congrArg Document.root (h.ofText.symm.trans h'.ofText)

end TokenLaunch.Json
