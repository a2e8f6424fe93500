import TokenLaunch.Proofs.Source.Lines

/-!
# Brackets

A reader that goes through a text and keeps the brackets and braces that are open.  Lines of a text
are laid out right if each stands as deep as the reader is nested where the line begins, less the
brackets that the line closes first.
-/

namespace TokenLaunch.Text

/-! ## Open brackets -/

def isClosing (c : Char) : Bool := c == ')' || c == '\x7d'

def isBracket (c : Char) : Bool := c == '(' || c == '\x7b' || isClosing c

/-- The open brackets, each by what closes it and the last one first, without the last one; none if
something else closes that one. -/
def closeLast (c : Char) : List Char → Option (List Char)
  | [] => none
  | d :: ds => if c = d then some ds else none

/-- The brackets that are open behind a character. -/
def nextOpen (ds : List Char) (c : Char) : Option (List Char) :=
  if c = '(' then some (')' :: ds)
  else if c = '\x7b' then some ('\x7d' :: ds)
  else if isClosing c then closeLast c ds
  else some ds

/-- The brackets that are open behind a text where `ds` are open before it. -/
def openBehind (ds cs : List Char) : Option (List Char) := cs.foldlM nextOpen ds

/-- A text that opens and closes brackets so that `ds` become `es`. -/
def Turns (ds : List Char) (s : String) (es : List Char) : Prop :=
  openBehind ds s.toList = some es

instance (ds : List Char) (s : String) (es : List Char) : Decidable (Turns ds s es) :=
  inferInstanceAs (Decidable (_ = _))

/-- A text that closes the brackets that it opens, and no others. -/
def Balanced (s : String) : Prop := Turns [] s []

instance (s : String) : Decidable (Balanced s) := inferInstanceAs (Decidable (Turns _ _ _))

/-- A text without brackets. -/
def Bare (s : String) : Prop := s.toList.all (!isBracket ·) = true

instance (s : String) : Decidable (Bare s) := inferInstanceAs (Decidable (_ = _))

/-- The brackets that are open behind the first `n` characters of a text. -/
def openAt (s : String) (n : Nat) : Option (List Char) := openBehind [] (s.toList.take n)

theorem openBehind_append (ds as bs : List Char) :
    openBehind ds (as ++ bs) = (openBehind ds as).bind (openBehind · bs) :=
  List.foldlM_append

theorem openBehind_cons (ds cs : List Char) (c : Char) :
    openBehind ds (c :: cs) = (nextOpen ds c).bind (openBehind · cs) :=
  List.foldlM_cons

theorem closeLast_append {c : Char} {ds es : List Char} (h : closeLast c ds = some es)
    (outer : List Char) : closeLast c (ds ++ outer) = some (es ++ outer) := by
  cases ds with
  | nil => cases h
  | cons d ds =>
    obtain ⟨hd, heq⟩ := Option.ite_none_right_eq_some.mp h
    obtain rfl := Option.some.inj heq
    exact if_pos hd

theorem nextOpen_append {ds es : List Char} {c : Char} (h : nextOpen ds c = some es)
    (outer : List Char) : nextOpen (ds ++ outer) c = some (es ++ outer) := by
  unfold nextOpen at h ⊢
  split
  · rename_i hopen
    rw [if_pos hopen] at h
    exact congrArg (Option.map (· ++ outer)) h
  rename_i hopen
  rw [if_neg hopen] at h
  split
  · rename_i hbrace
    rw [if_pos hbrace] at h
    exact congrArg (Option.map (· ++ outer)) h
  rename_i hbrace
  rw [if_neg hbrace] at h
  split
  · rename_i hclosing
    rw [if_pos hclosing] at h
    exact closeLast_append h outer
  · rename_i hclosing
    rw [if_neg hclosing] at h
    exact congrArg (Option.map (· ++ outer)) h

theorem nextOpen_of_not_isBracket {c : Char} (h : isBracket c = false) (ds : List Char) :
    nextOpen ds c = some ds := by
  simp only [isBracket, Bool.or_eq_false_iff, beq_eq_false_iff_ne] at h
  obtain ⟨⟨hopen, hbrace⟩, hclosing⟩ := h
  rw [nextOpen, if_neg hopen, if_neg hbrace, if_neg (by simp [hclosing])]

/-- What is open all the time does not matter. -/
theorem openBehind_outer {ds es cs : List Char} (h : openBehind ds cs = some es)
    (outer : List Char) : openBehind (ds ++ outer) cs = some (es ++ outer) := by
  induction cs generalizing ds with
  | nil =>
    obtain rfl := Option.some.inj h
    rfl
  | cons c cs ih =>
    rw [openBehind_cons, Option.bind_eq_some_iff] at h
    obtain ⟨fs, hc, hcs⟩ := h
    rw [openBehind_cons, nextOpen_append hc, Option.bind_some, ih hcs]

/-- Wherever a text is cut, its front can be read. -/
theorem exists_openBehind_of_append {ds es as bs : List Char}
    (h : openBehind ds (as ++ bs) = some es) : ∃ fs, openBehind ds as = some fs := by
  rw [openBehind_append, Option.bind_eq_some_iff] at h
  exact h.imp fun _ hfs => hfs.1

theorem openBehind_of_all {cs : List Char} (h : cs.all (!isBracket ·) = true) (ds : List Char) :
    openBehind ds cs = some ds := by
  induction cs with
  | nil => rfl
  | cons c cs ih =>
    rw [List.all_cons, Bool.and_eq_true] at h
    rw [openBehind_cons, nextOpen_of_not_isBracket (by simpa using h.1)]
    exact ih h.2

theorem Turns.append {ds es fs : List Char} {s t : String} (hs : Turns ds s es)
    (ht : Turns es t fs) : Turns ds (s ++ t) fs := by
  rw [Turns, String.toList_append, openBehind_append, hs, Option.bind_some, ht]

theorem Turns.outer {ds es : List Char} {s : String} (h : Turns ds s es) (outer : List Char) :
    Turns (ds ++ outer) s (es ++ outer) :=
  openBehind_outer h outer

theorem Balanced.turns {s : String} (h : Balanced s) (ds : List Char) : Turns ds s ds :=
  h.outer ds

theorem Balanced.append {s t : String} (hs : Balanced s) (ht : Balanced t) : Balanced (s ++ t) :=
  Turns.append hs ht

theorem Bare.balanced {s : String} (h : Bare s) : Balanced s := openBehind_of_all h []

theorem Bare.append {s t : String} (hs : Bare s) (ht : Bare t) : Bare (s ++ t) := by
  rw [Bare, String.toList_append, List.all_append, hs, ht, Bool.and_true]

theorem balanced_intercalate {sep : String} {ss : List String} (hsep : Balanced sep)
    (h : ∀ s ∈ ss, Balanced s) : Balanced (sep.intercalate ss) :=
  intercalate_closed (P := Balanced) rfl (fun _ _ => .append) hsep h

theorem balanced_join {ss : List String} (h : ∀ s ∈ ss, Balanced s) : Balanced (String.join ss) :=
  join_closed (P := Balanced) rfl (fun _ _ => .append) h

theorem bare_intercalate {sep : String} {ss : List String} (hsep : Bare sep)
    (h : ∀ s ∈ ss, Bare s) : Bare (sep.intercalate ss) :=
  intercalate_closed (P := Bare) rfl (fun _ _ => .append) hsep h

theorem bare_join {ss : List String} (h : ∀ s ∈ ss, Bare s) : Bare (String.join ss) :=
  join_closed (P := Bare) rfl (fun _ _ => .append) h

/-! ## One block in braces -/

section Braces

variable {front body : String} {n : Nat}

theorem openAt_of_bare (hfront : Bare front) (h : n ≤ front.length) (rest : String) :
    openAt (front ++ rest) n = some [] := by
  have hall : (front.toList.take n).all (!isBracket ·) = true :=
    List.all_eq_true.mpr fun c hc => List.all_eq_true.mp hfront c (List.mem_of_mem_take hc)
  rw [openAt, String.toList_append, List.take_append_of_le_length h]
  exact openBehind_of_all hall []

/-- Behind the brace that opens the block, its bracket is the outermost that is open. -/
theorem openAt_of_brace (hfront : Bare front) (rest : String) :
    openAt (front ++ "\x7b" ++ rest) (front.length + 1 + n) =
      openBehind ['\x7d'] (rest.toList.take n) := by
  have hchars : (front ++ "\x7b" ++ rest).toList = front.toList ++ '\x7b' :: rest.toList := by simp
  have htake : (front.toList ++ '\x7b' :: rest.toList).take (front.length + 1 + n) =
      front.toList ++ '\x7b' :: rest.toList.take n := by
    rw [← String.length_toList, Nat.add_assoc, Nat.add_comm 1, List.take_length_add_append]
    rfl
  rw [openAt, hchars, htake, openBehind_append, openBehind_of_all hfront, Option.bind_some,
    openBehind_cons]
  rfl

/-- One block in braces behind a text without brackets, and a line feed behind it: a bracket is open
exactly between the two braces. -/
theorem openAt_braces (hfront : Bare front) (hbody : Balanced body) (n : Nat) :
    ∃ ds, openAt (front ++ "\x7b" ++ (body ++ "\x7d\n")) n = some ds ∧
      (ds = [] ↔ n ≤ front.length ∨
        (front ++ "\x7b" ++ (body ++ "\x7d\n")).length ≤ n + 1) := by
  have hlength : (front ++ "\x7b" ++ (body ++ "\x7d\n")).length =
      front.length + body.length + 3 := by
    have hfixed : "\x7b".length = 1 ∧ "\x7d\n".length = 2 := ⟨rfl, rfl⟩
    simp only [String.length_append]
    omega
  rw [hlength]
  rcases Nat.lt_or_ge front.length n with hn | hn
  · obtain ⟨m, rfl⟩ := Nat.exists_eq_add_of_le hn
    rw [openAt_of_brace hfront, String.toList_append]
    rcases Nat.lt_or_ge body.length m with hm | hm
    · -- behind the brace that closes the block
      obtain ⟨k, rfl⟩ := Nat.exists_eq_add_of_lt hm
      have htake : (body.toList ++ "\x7d\n".toList).take (body.length + k + 1) =
          body.toList ++ '\x7d' :: ['\n'].take k := by
        rw [← String.length_toList, Nat.add_assoc, List.take_length_add_append]
        rfl
      have hfeed : (['\n'].take k).all (!isBracket ·) = true := by
        cases k with
        | zero => rfl
        | succ k =>
          rw [List.take_succ_cons, List.take_nil]
          rfl
      refine ⟨[], ?_, by simp; omega⟩
      rw [htake, openBehind_append, hbody.turns, Option.bind_some, openBehind_cons]
      exact openBehind_of_all hfeed []
    · have hcut := hbody
      rw [Balanced, Turns, ← List.take_append_drop m body.toList] at hcut
      obtain ⟨fs, hfs⟩ := exists_openBehind_of_append hcut
      rw [List.take_append_of_le_length hm]
      refine ⟨fs ++ ['\x7d'], openBehind_outer hfs ['\x7d'], ?_⟩
      simp
      omega
  · exact ⟨[], by rw [String.append_assoc, openAt_of_bare hfront hn], by simp [hn]⟩

end Braces

/-! ## Lines -/

/-- The number of brackets that a text closes before anything else. -/
def closingCount (cs : List Char) : Nat := (cs.takeWhile isClosing).length

/-- A line that stands right where `depth` brackets are open: there are four blanks for each that it
does not close first, and no white space is behind it. -/
inductive Stands (depth : Nat) : List Char → Prop
  | behind {k : Nat} {c : Char} {cs : List Char} (hdepth : k + closingCount (c :: cs) = depth)
      (hc : isBlank c = false) (hlast : (c :: cs).getLast?.any (!isBlank ·) = true) :
      Stands depth (List.replicate (4 * k) ' ' ++ c :: cs)

/-- Lines of which each stands right, and which turn `ds` into `es`. -/
inductive Lays : List Char → List String → List Char → Prop
  | nil {ds : List Char} : Lays ds [] ds
  | empty {ds es : List Char} {ls : List String} (h : Lays ds ls es) : Lays ds ("" :: ls) es
  | line {ds es fs : List Char} {l : String} {ls : List String}
      (hl : Stands ds.length l.toList) (hturns : Turns ds l es) (h : Lays es ls fs) :
      Lays ds (l :: ls) fs

/-- The first character is neither white space nor a bracket that closes. -/
def Begins (s : String) : Prop := s.toList.head?.any (fun c => !isBlank c && !isClosing c) = true

instance (s : String) : Decidable (Begins s) := inferInstanceAs (Decidable (_ = _))

/-- The last character is no white space. -/
def Ends (s : String) : Prop := s.toList.getLast?.any (!isBlank ·) = true

instance (s : String) : Decidable (Ends s) := inferInstanceAs (Decidable (_ = _))

theorem Begins.append {s : String} (h : Begins s) (t : String) : Begins (s ++ t) := by
  unfold Begins at h ⊢
  rw [String.toList_append]
  cases hs : s.toList with
  | nil => simp [hs] at h
  | cons c cs => simpa [hs] using h

theorem Ends.append {t : String} (h : Ends t) (s : String) : Ends (s ++ t) := by
  unfold Ends at h ⊢
  rw [String.toList_append, List.getLast?_append]
  cases ht : t.toList.getLast? with
  | none => simp [ht] at h
  | some c => simpa [ht] using h

/-- A text that closes the brackets that it opens, without white space at its ends. -/
structure Phrase (s : String) : Prop where
  balanced : Balanced s
  begins : Begins s
  ends : Ends s

instance (s : String) : Decidable (Phrase s) :=
  decidable_of_iff (Balanced s ∧ Begins s ∧ Ends s)
    ⟨fun ⟨hbalanced, hbegins, hends⟩ => ⟨hbalanced, hbegins, hends⟩,
      fun ⟨hbalanced, hbegins, hends⟩ => ⟨hbalanced, hbegins, hends⟩⟩

/-- A phrase may follow a word and blanks. -/
theorem Phrase.after {s t : String} (hbalanced : Balanced s) (hbegins : Begins s)
    (ht : Phrase t) : Phrase (s ++ t) :=
  ⟨hbalanced.append ht.balanced, hbegins.append t, ht.ends.append s⟩

theorem Phrase.append {s t : String} (hs : Phrase s) (ht : Phrase t) : Phrase (s ++ t) :=
  .after hs.balanced hs.begins ht

/-- Two phrases, and what stands between them. -/
theorem Phrase.join {s sep t : String} (hs : Phrase s) (hsep : Balanced sep) (ht : Phrase t) :
    Phrase (s ++ sep ++ t) :=
  .after (hs.balanced.append hsep) (hs.begins.append sep) ht

theorem Phrase.ne_empty {s : String} (h : Phrase s) : s ≠ "" := by
  rintro rfl
  exact absurd h.begins (by decide)

theorem Stands.of_begins {s : String} (hbegins : Begins s) (hends : Ends s) :
    Stands 0 s.toList := by
  unfold Begins at hbegins
  unfold Ends at hends
  cases hs : s.toList with
  | nil => simp [hs] at hbegins
  | cons c cs =>
    rw [hs] at hbegins hends
    have hc : isBlank c = false ∧ isClosing c = false := by simpa using hbegins
    have hcount : closingCount (c :: cs) = 0 := by simp [closingCount, hc.2]
    exact .behind (k := 0) (by rw [hcount]) hc.1 hends

/-- A line that begins with one bracket that closes stands where one is open. -/
theorem Stands.of_isClosing {c : Char} {cs : List Char} (hc : isClosing c = true)
    (hcs : cs.head?.any isClosing = false) (hlast : (c :: cs).getLast?.any (!isBlank ·) = true) :
    Stands 1 (c :: cs) := by
  have hblank : isBlank c = false := by
    rcases Bool.or_eq_true_iff.mp hc with hparen | hbrace
    · rw [eq_of_beq hparen]
      decide
    · rw [eq_of_beq hbrace]
      decide
  have hcount : closingCount (c :: cs) = 1 := by
    cases cs with
    | nil => simp [closingCount, hc]
    | cons d cs => simp_all [closingCount]
  exact .behind (k := 0) (by rw [hcount]) hblank hlast

theorem Stands.deeper {depth : Nat} {l : String} (h : Stands depth l.toList) :
    Stands (depth + 1) ("    " ++ l).toList := by
  have hblanks (k : Nat) : "    ".toList ++ List.replicate (4 * k) ' ' =
      List.replicate (4 * (k + 1)) ' ' := by
    have hfour : "    ".toList = List.replicate 4 ' ' := rfl
    rw [hfour, List.replicate_append_replicate, Nat.mul_succ, Nat.add_comm]
  rw [String.toList_append]
  generalize l.toList = line at h
  cases h with
  | behind hdepth hc hlast =>
    rw [← List.append_assoc, hblanks]
    exact .behind (by omega) hc hlast

theorem Stands.ne_empty {depth : Nat} {l : String} (h : Stands depth l.toList) : l ≠ "" := by
  rintro rfl
  generalize hcs : "".toList = cs at h
  cases h with
  | behind => simp at hcs

theorem Lays.append {ds es fs : List Char} {ls ms : List String} (hls : Lays ds ls es)
    (hms : Lays es ms fs) : Lays ds (ls ++ ms) fs := by
  induction hls with
  | nil => exact hms
  | empty _ ih => exact .empty (ih hms)
  | line hl hturns _ ih => exact .line hl hturns (ih hms)

/-- A line of its own that closes what it opens. -/
theorem Phrase.lays {l : String} (h : Phrase l) : Lays [] [l] [] :=
  .line (.of_begins h.begins h.ends) h.balanced .nil

theorem lays_of_phrases {ls : List String} (h : ∀ l ∈ ls, Phrase l) : Lays [] ls [] := by
  induction ls with
  | nil => exact .nil
  | cons l ls ih =>
    obtain ⟨hl, hls⟩ := List.forall_mem_cons.mp h
    exact hl.lays.append (ih hls)

/-- Lines inside one more bracket stand one step deeper. -/
theorem Lays.deeper {ds es : List Char} {ls : List String} (h : Lays ds ls es) (d : Char) :
    Lays (ds ++ [d]) (ls.map SourceUnit.indentLine) (es ++ [d]) := by
  induction h with
  | nil => exact .nil
  | empty _ ih => exact .empty ih
  | @line ds es fs l ls hl hturns _ ih =>
    have hindent : SourceUnit.indentLine l = "    " ++ l :=
      if_neg (by simpa using hl.ne_empty)
    have hblanks : Balanced "    " := by decide
    rw [List.map_cons, hindent]
    refine .line ?_ ((hblanks.turns _).append (hturns.outer [d])) ih
    rw [List.length_append]
    exact hl.deeper

theorem turns_indentLine {ds es : List Char} {l : String} (h : Turns ds l es) :
    Turns ds (SourceUnit.indentLine l) es := by
  have hblanks : Balanced "    " := by decide
  unfold SourceUnit.indentLine
  split
  · rename_i hempty
    rwa [String.isEmpty_iff.mp hempty] at h
  · exact (hblanks.turns ds).append h

/-- Lines keep their brackets when they are indented and put together. -/
theorem Lays.turns {ds es : List Char} {ls : List String} (h : Lays ds ls es) :
    Turns ds (String.join (ls.map fun l => SourceUnit.indentLine l ++ "\n")) es := by
  have hfeed : Balanced "\n" := by decide
  induction h with
  | nil => exact rfl
  | empty _ ih =>
    rw [List.map_cons, String.join_cons]
    exact (hfeed.turns _).append ih
  | line _ hturns _ ih =>
    rw [List.map_cons, String.join_cons]
    exact ((turns_indentLine hturns).append (hfeed.turns _)).append ih

/-- A line among others stands where the text above it has left brackets open. -/
theorem Lays.stands {ds fs : List Char} {line : String} {above below : List String}
    (h : Lays ds (above ++ line :: below) fs) (hne : line ≠ "") :
    ∃ es, Turns ds (String.join (above.map (· ++ "\n"))) es ∧ Stands es.length line.toList := by
  have hfeed : Balanced "\n" := by decide
  induction above generalizing ds with
  | nil =>
    cases h with
    | empty => exact absurd rfl hne
    | line hl => exact ⟨ds, rfl, hl⟩
  | cons l above ih =>
    rw [List.map_cons, String.join_cons]
    cases h with
    | empty h =>
      obtain ⟨es, hturns, hstands⟩ := ih h
      exact ⟨es, (hfeed.turns ds).append hturns, hstands⟩
    | line _ hl h =>
      obtain ⟨es, hturns, hstands⟩ := ih h
      exact ⟨es, (hl.append (hfeed.turns _)).append hturns, hstands⟩

theorem lays_intercalate {ds : List Char} {blocks : List (List String)}
    (h : ∀ b ∈ blocks, Lays ds b ds) : Lays ds ([""].intercalate blocks) ds := by
  induction blocks with
  | nil => exact .nil
  | cons b blocks ih =>
    obtain ⟨hb, hblocks⟩ := List.forall_mem_cons.mp h
    cases blocks with
    | nil => simpa using hb
    | cons b' blocks =>
      rw [List.intercalate_cons_cons]
      exact (hb.append (.empty .nil)).append (ih hblocks)

end TokenLaunch.Text
