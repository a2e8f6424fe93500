import TokenLaunch.Proofs.Source.Lines

/-!
# Reading a source

What can be read off the text of a contract alone: the arguments of a base, the first value of a
variable, and the decimals that the contract reports.
-/

namespace TokenLaunch

namespace Text

/-- What stands between each occurrence of `lead` on a line and the next `stop`. -/
def between (lead : List Char) (stop : Char) : List Char → List String
  | [] => []
  | c :: cs =>
    if lead.isPrefixOf (c :: cs) then
      String.ofList (((c :: cs).drop lead.length).takeWhile (· ≠ stop)) :: between lead stop cs
    else between lead stop cs

theorem between_cons_of_not_isPrefix {lead cs : List Char} {stop c : Char}
    (h : ¬ lead <+: c :: cs) : between lead stop (c :: cs) = between lead stop cs := by
  rw [between, if_neg (by rwa [List.isPrefixOf_iff_prefix])]

/-- Nothing is read where a character of the lead is missing. -/
theorem between_eq_nil_of_notMem {lead cs : List Char} {stop x : Char} (hx : x ∈ lead)
    (h : x ∉ cs) : between lead stop cs = [] := by
  induction cs with
  | nil => rfl
  | cons c cs ih =>
    rw [between_cons_of_not_isPrefix fun hpre => h (hpre.subset hx)]
    exact ih fun hmem => h (List.mem_cons_of_mem _ hmem)

theorem isPrefix_of_notMem {lead pre cs : List Char} {x : Char} (hx : x ∉ lead)
    (h : lead <+: pre ++ x :: cs) : lead <+: pre := by
  rcases List.prefix_or_prefix_of_prefix h (List.prefix_append pre (x :: cs)) with
    hlead | ⟨rest, rfl⟩
  · exact hlead
  · have hrest := (List.prefix_append_right_inj pre).mp h
    cases rest with
    | nil => simp
    | cons y rest =>
      obtain ⟨rfl, -⟩ := List.cons_prefix_cons.mp hrest
      exact absurd (List.mem_append_right _ List.mem_cons_self) hx

/-- Where the lead does not occur, a character that is not in it keeps what follows apart. -/
theorem between_append_cons {lead pre cs : List Char} {stop x : Char} (hne : lead ≠ [])
    (hx : x ∉ lead) (hpre : between lead stop pre = []) :
    between lead stop (pre ++ x :: cs) = between lead stop cs := by
  induction pre with
  | nil =>
    refine between_cons_of_not_isPrefix fun h => hne ?_
    have hnil : lead <+: [] := isPrefix_of_notMem hx h
    simpa using hnil
  | cons c pre ih =>
    rw [between] at hpre
    split at hpre
    · cases hpre
    · rename_i hno
      rw [List.isPrefixOf_iff_prefix] at hno
      rw [List.cons_append, between_cons_of_not_isPrefix, ih hpre]
      intro h
      exact hno (isPrefix_of_notMem hx h)

theorem takeWhile_ne_append {stop : Char} {v post : List Char} (h : stop ∉ v) :
    (v ++ stop :: post).takeWhile (· ≠ stop) = v := by
  rw [List.takeWhile_append_of_pos]
  · simp
  · intro c hc
    exact decide_eq_true (ne_of_mem_of_not_mem hc h)

/-- A lead that does not repeat its first character is read once. -/
theorem between_lead {lead v post : List Char} {stop x : Char} (hx : x ∉ lead)
    (hv : x ∉ v) (hstop : stop ∉ v) (hpost : x ∉ stop :: post) :
    between (x :: lead) stop (x :: lead ++ (v ++ stop :: post)) = [String.ofList v] := by
  have hrest : between (x :: lead) stop (lead ++ (v ++ stop :: post)) = [] := by
    refine between_eq_nil_of_notMem List.mem_cons_self ?_
    rw [List.mem_append, List.mem_append]
    exact fun h => h.elim hx fun h => h.elim hv hpost
  rw [List.cons_append, between, if_pos (by simp), hrest]
  simpa using congrArg String.ofList (takeWhile_ne_append hstop)

/-- What stands behind `start` up to the next `stop`, where there is `start`. -/
def after (start : List Char) (stop : Char) (cs : List Char) : List String :=
  if start.isPrefixOf cs then
    [String.ofList ((cs.drop start.length).takeWhile (· ≠ stop))]
  else []

theorem after_of_head?_ne {start cs : List Char} {stop c : Char} (h : start.head? = some c)
    (hne : cs.head? ≠ some c) : after start stop cs = [] := by
  rw [after, if_neg]
  rw [List.isPrefixOf_iff_prefix]
  rintro ⟨rest, rfl⟩
  exact hne (by rw [List.head?_append, h, Option.some_or])

theorem after_append {start v post : List Char} {stop : Char} (h : stop ∉ v) :
    after start stop (start ++ (v ++ stop :: post)) = [String.ofList v] := by
  rw [after, if_pos (by simp), List.drop_left, takeWhile_ne_append h]

/-! ## Lines of a contract -/

/-- The same on a line, behind four blanks. -/
def behind (start : String) (stop : Char) (line : String) : List String :=
  after ("    ".toList ++ start.toList) stop line.toList

/-- The declaration of a word before its first value. -/
def wordStart (name : String) : String := "uint256 public " ++ name ++ " = "

/-- The first values of the words that a contract declares under a name. -/
def firstValues (name s : String) : List String :=
  (pieces s).flatMap (behind (wordStart name) ';')

/-- The calls of the constructors of bases: they stand behind the bracket that closes the
parameters of the contract. -/
def baseCalls (line : String) : List String := behind ")" '\x7b' line

/-- The arguments that the constructor of a base is called with. -/
def baseArguments (base s : String) : List String :=
  ((pieces s).flatMap baseCalls).flatMap fun calls => between (base ++ "(").toList ')' calls.toList

/-- The head of a function that takes the place of the decimals of the base. -/
def overrideHead : String := "function decimals() public pure override returns (uint8) \x7b"

/-- The line that it stands on. -/
def overrideLine : String := "    " ++ overrideHead

/-- The number on a line that returns one. -/
def returned? (line : String) : Option Nat :=
  match behind "    return " ';' line with
  | [digits] => number? digits.toList
  | _ => none

/-- What `decimals()` answers in a source of these lines: what the line below the head of an
override returns, and the 18 of the base where there is no override. -/
def decimalsOn? : List String → Option Nat
  | [] => some 18
  | l :: ls => if l = overrideLine then ls.head?.bind returned? else decimalsOn? ls

/-- What the decimals of a contract are by its source. -/
def reportedDecimals? (s : String) : Option Nat := decimalsOn? (pieces s)

theorem behind_of_head?_ne {start line : String} {stop : Char}
    (h : line.toList.head? ≠ some ' ') : behind start stop line = [] :=
  after_of_head?_ne rfl h

theorem after_blanks {blanks start cs : List Char} {stop : Char} :
    after (blanks ++ start) stop (blanks ++ cs) = after start stop cs := by
  have hdrop : (blanks ++ cs).drop (blanks ++ start).length = cs.drop start.length := by
    rw [List.length_append, List.drop_append, List.drop_of_length_le (Nat.le_add_right _ _),
      List.nil_append, Nat.add_sub_cancel_left]
  simp only [after, List.isPrefixOf_iff_prefix, List.prefix_append_right_inj, hdrop]

theorem decimalsOn?_append {ls rest : List String} (h : overrideLine ∉ ls) :
    decimalsOn? (ls ++ rest) = decimalsOn? rest := by
  induction ls with
  | nil => rfl
  | cons l ls ih =>
    simp only [List.mem_cons, not_or] at h
    rw [List.cons_append, decimalsOn?, if_neg (Ne.symm h.1), ih h.2]

end Text

namespace SourceUnit

open Text

theorem toList_indentLine {l : String} (h : l ≠ "") :
    (indentLine l).toList = "    ".toList ++ l.toList := by
  rw [indentLine, if_neg (by simpa using h), String.toList_append]

theorem behind_indentLine {start l : String} {stop : Char} (h : start ≠ "") :
    behind start stop (indentLine l) = after start.toList stop l.toList := by
  by_cases hl : l = ""
  · subst hl
    have hstart : start.toList ≠ [] := by simpa using h
    have hnil : ¬ start.toList <+: [] := by simpa using hstart
    rw [after, if_neg (by rwa [String.toList_empty, List.isPrefixOf_iff_prefix])]
    exact behind_of_head?_ne (by simp [indentLine])
  · rw [behind, toList_indentLine hl, after_blanks]

end SourceUnit

end TokenLaunch
