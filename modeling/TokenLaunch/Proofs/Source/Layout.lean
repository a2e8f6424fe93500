import TokenLaunch.Proofs.ContractName
import TokenLaunch.Proofs.Source.Brackets
import TokenLaunch.Proofs.Source.Contract

/-!
# The layout of a contract

The lines of a tree whose atoms have no brackets are laid out right: a line that opens a bracket and
does not close it stands before lines that are one step deeper, and these before the line that closes
it.
-/

namespace TokenLaunch

namespace Text

/-! ## Punctuation -/

theorem balanced_blank : Balanced " " := by decide

theorem balanced_comma : Balanced ", " := by decide

theorem balanced_becomes : Balanced " = " := by decide

theorem phrase_end : Phrase ";" := by decide

theorem turns_open : Turns [] "(" [')'] := by decide

theorem turns_close : Turns [')'] ")" [] := by decide

theorem ends_close : Ends ")" := by decide

/-! ## Phrases -/

/-- A text on one line, without brackets, and without white space at its ends. -/
structure Neat (s : String) : Prop where
  oneLine : OneLine s
  bare : Bare s
  begins : Begins s
  ends : Ends s

instance (s : String) : Decidable (Neat s) :=
  decidable_of_iff (OneLine s ∧ Bare s ∧ Begins s ∧ Ends s)
    ⟨fun ⟨hline, hbare, hbegins, hends⟩ => ⟨hline, hbare, hbegins, hends⟩,
      fun ⟨hline, hbare, hbegins, hends⟩ => ⟨hline, hbare, hbegins, hends⟩⟩

theorem Neat.phrase {s : String} (h : Neat s) : Phrase s := ⟨h.bare.balanced, h.begins, h.ends⟩

/-- What is balanced stays so in brackets behind a balanced text. -/
theorem Balanced.enclosed {f s : String} (hf : Balanced f) (h : Balanced s) :
    Balanced (f ++ "(" ++ s ++ ")") :=
  (((hf.turns _).append turns_open).append (h.turns _)).append turns_close

theorem Phrase.call {f s : String} (hf : Phrase f) (h : Balanced s) :
    Phrase (f ++ "(" ++ s ++ ")") :=
  ⟨hf.balanced.enclosed h, ((hf.begins.append _).append _).append _, ends_close.append _⟩

theorem not_isBlank_of_isAlphanum {c : Char} (h : c.isAlphanum = true) :
    isBlank c = false ∧ isBracket c = false := by
  have hkinds : c.isAlphanum = (c.isUpper || c.isLower || c.isDigit) := rfl
  have hrange : (48 ≤ c.toNat ∧ c.toNat ≤ 57) ∨ (65 ≤ c.toNat ∧ c.toNat ≤ 90) ∨
      (97 ≤ c.toNat ∧ c.toNat ≤ 122) := by
    simp only [hkinds, Bool.or_eq_true, isUpper_iff_toNat, isLower_iff_toNat,
      Char.isDigit_iff_toNat] at h
    have hzero : '0'.toNat = 48 ∧ '9'.toNat = 57 := ⟨rfl, rfl⟩
    omega
  constructor
  · simp only [isBlank, Bool.or_eq_false_iff, Bool.and_eq_false_iff, decide_eq_false_iff_not,
      beq_eq_false_iff_ne]
    omega
  · have hne {d : Char} (hd : d.isAlphanum = false) : c ≠ d := by
      rintro rfl
      rw [hd] at h
      cases h
    have hopen : c ≠ '(' ∧ c ≠ '\x7b' := ⟨hne (by decide), hne (by decide)⟩
    have hclose : c ≠ ')' ∧ c ≠ '\x7d' := ⟨hne (by decide), hne (by decide)⟩
    simp [isBracket, isClosing, hopen, hclose]

theorem bare_of_isAlphanum {s : String} (h : ∀ c ∈ s.toList, c.isAlphanum = true) : Bare s := by
  refine List.all_eq_true.mpr fun c hc => ?_
  rw [(not_isBlank_of_isAlphanum (h c hc)).2]
  rfl

theorem phrase_decimal (n : Nat) : Phrase (decimal n) := by
  obtain ⟨hne, hdigits⟩ := isDigits_decimal n
  have hall : ∀ c ∈ (decimal n).toList, c.isAlphanum = true := fun c hc => by
    rw [Char.isAlphanum, hdigits c hc, Bool.or_true]
  have hfirst := not_isBlank_of_isAlphanum (hall _ (List.head_mem hne))
  have hlast := not_isBlank_of_isAlphanum (hall _ (List.getLast_mem hne))
  refine ⟨(bare_of_isAlphanum hall).balanced, ?_, ?_⟩
  · have hclosing : isClosing ((decimal n).toList.head hne) = false :=
      (Bool.or_eq_false_iff.mp hfirst.2).2
    rw [Begins, List.head?_eq_some_head hne, Option.any_some, hfirst.1, hclosing]
    rfl
  · rw [Ends, List.getLast?_eq_some_getLast hne, Option.any_some, hlast.1]
    rfl

end Text

open Text

/-! ## Types -/

theorem Abi.phrase_tupleName {names : List String} (h : ∀ s ∈ names, Phrase s) :
    Phrase (Abi.tupleName names) := by
  have hcomma : Balanced "," := by decide
  have hbegins : Begins "(" := by decide
  unfold Abi.tupleName
  split
  · have hclose : Turns [')'] ",)" [] := by decide
    have hends : Ends ",)" := by decide
    have hname := h _ List.mem_cons_self
    exact ⟨(turns_open.append (hname.balanced.turns _)).append hclose,
      (hbegins.append _).append _, hends.append _⟩
  · have hnames := balanced_intercalate hcomma fun s hs => (h s hs).balanced
    exact ⟨(turns_open.append (hnames.turns _)).append turns_close, (hbegins.append _).append _,
      ends_close.append _⟩

mutual
theorem Abi.Ty.phrase_name (t : Abi.Ty) : Phrase t.name := by
  cases t with
  | bool | address | function | bytes | string => simp only [Ty.name]; decide
  | int bits | uint bits | fixedBytes size =>
    simp only [Ty.name]
    exact Phrase.append (by decide) (phrase_decimal _)
  | array item =>
    simp only [Ty.name]
    exact item.phrase_name.append (by decide)
  | fixedArray item size =>
    simp only [Ty.name]
    exact ((item.phrase_name.append (by decide)).append (phrase_decimal _)).append (by decide)
  | tuple items =>
    simp only [Ty.name]
    exact phrase_tupleName (Ty.phrase_names items)

theorem Abi.Ty.phrase_names (ts : List Abi.Ty) : ∀ s ∈ Abi.Ty.names ts, Phrase s := by
  cases ts with
  | nil => simp [Ty.names]
  | cons t ts =>
    simp only [Ty.names, List.forall_mem_cons]
    exact ⟨t.phrase_name, Ty.phrase_names ts⟩
end

/-! ## The top of a source -/

namespace SourceUnit

/-- The lines above the contract. -/
def aboveLines (u : SourceUnit) : List String :=
  ["// SPDX-License-Identifier: MIT", "pragma solidity ^0.8.20;", ""]
    ++ u.imports.map importText ++ [""]

/-- What stands before the brace that opens the contract. -/
def heading (u : SourceUnit) : String :=
  "contract " ++ u.name
    ++ (if u.bases.isEmpty then "" else " is " ++ ", ".intercalate u.bases) ++ " "

theorem topLines_eq (u : SourceUnit) : u.topLines = u.aboveLines ++ [u.heading ++ "\x7b"] := by
  have hbrace : " \x7b" = " " ++ "\x7b" := rfl
  simp [topLines, headText, aboveLines, heading, hbrace, String.append_assoc]

theorem map_indentLine_intercalate (blocks : List (List String)) :
    ([""].intercalate blocks).map indentLine = [""].intercalate (blocks.map (·.map indentLine)) := by
  induction blocks with
  | nil => rfl
  | cons b blocks ih =>
    cases blocks with
    | nil => simp
    | cons b' blocks =>
      have hempty : [""].map indentLine = [""] := rfl
      rw [List.intercalate_cons_cons, List.map_append, List.map_append, ih, hempty]
      simp only [List.map_cons, List.intercalate_cons_cons]

end SourceUnit

namespace Solidity

/-! ## Expressions and statements -/

namespace Expression

theorem phrase_bracketed (needed : Bool) {s : String} (h : Phrase s) :
    Phrase (bracketed needed s) := by
  cases needed with
  | false => exact h
  | true =>
    have hbegins : Begins "(" := by decide
    exact ⟨(turns_open.append (h.balanced.turns _)).append turns_close, (hbegins.append _).append _,
      ends_close.append _⟩

theorem bare_text (op : Operator) : Bare op.text := by
  cases op <;> decide

mutual
theorem phrase_render (e : Expression) (h : ∀ a ∈ e.atoms, Neat a) : Phrase e.render := by
  cases e with
  | name x => exact (h x (by simp [atoms])).phrase
  | number n => exact phrase_decimal n
  | text s =>
    have hquote : Phrase "\"" := by decide
    exact hquote.join (h s (by simp [atoms])).bare.balanced hquote
  | call f args =>
    simp only [atoms, List.forall_mem_cons] at h
    exact h.1.phrase.call (balanced_intercalate balanced_comma (balanced_renderAll args h.2))
  | entry mapping key =>
    have hopen : Balanced "[" := by decide
    have hclose : Phrase "]" := by decide
    simp only [atoms, List.forall_mem_cons] at h
    exact (h.1.phrase.join hopen (key.phrase_render h.2)).append hclose
  | not e =>
    have hnot : Phrase "!" := by decide
    exact hnot.append (phrase_bracketed _ (e.phrase_render h))
  | binary op left right =>
    simp only [atoms, List.forall_mem_append] at h
    have hleft := phrase_bracketed (left.level < op.level) (left.phrase_render h.1)
    have hright := phrase_bracketed (right.level ≤ op.level) (right.phrase_render h.2)
    have hop := (balanced_blank.append (bare_text op).balanced).append balanced_blank
    have hall := hleft.join hop hright
    simpa only [render, String.append_assoc] using hall

theorem balanced_renderAll (es : List Expression) (h : ∀ a ∈ atomsAll es, Neat a) :
    ∀ s ∈ renderAll es, Balanced s := by
  cases es with
  | nil => simp [renderAll]
  | cons e es =>
    simp only [atomsAll, List.forall_mem_append] at h
    simp only [renderAll, List.forall_mem_cons]
    exact ⟨(e.phrase_render h.1).balanced, balanced_renderAll es h.2⟩
end

end Expression

/-! ## Blocks -/

/-- Lines inside a bracket stand one step deeper. -/
theorem lays_deeper {ls : List String} (h : Lays [] ls []) (hne : "" ∉ ls) (d : Char) :
    Lays [d] (Statement.deeper ls) [d] := by
  have hdeeper : Statement.deeper ls = ls.map SourceUnit.indentLine :=
    List.map_congr_left fun l hl => (if_neg (by simpa using ne_of_mem_of_not_mem hl hne)).symm
  rw [hdeeper]
  exact h.deeper d

/-- The brace that closes a block stands on a line of its own. -/
theorem lays_closing {ls : List String} (h : Lays [] ls []) (hne : "" ∉ ls) :
    Lays ['\x7d'] (Statement.deeper ls ++ ["\x7d"]) [] :=
  (lays_deeper h hne '\x7d').append (.line (.of_isClosing rfl rfl rfl) (by decide) .nil)

theorem lays_block {head : String} {ls : List String} (hbegins : Begins head) (hends : Ends head)
    (hturns : Turns [] head ['\x7d']) (h : Lays [] ls []) (hne : "" ∉ ls) :
    Lays [] (head :: Statement.deeper ls ++ ["\x7d"]) [] :=
  .line (.of_begins hbegins hends) hturns (lays_closing h hne)

namespace Statement

mutual
theorem empty_notMem_lines (s : Statement) : "" ∉ s.lines := by
  cases s with
  | eval | assign | emit | require | leave | returnValue | when => simp [lines, deeper]

theorem empty_notMem_bodyLines (ss : List Statement) : "" ∉ bodyLines ss := by
  cases ss with
  | nil => simp [bodyLines]
  | cons s ss =>
    rw [bodyLines, List.mem_append, not_or]
    exact ⟨s.empty_notMem_lines, empty_notMem_bodyLines ss⟩
end

mutual
theorem lays_lines (s : Statement) (h : ∀ a ∈ s.atoms, Neat a) : Lays [] s.lines [] := by
  cases s with
  | eval e => exact ((e.phrase_render h).append phrase_end).lays
  | assign target value =>
    simp only [atoms, List.forall_mem_append] at h
    have hassign := (target.phrase_render h.1).join balanced_becomes (value.phrase_render h.2)
    exact (hassign.append phrase_end).lays
  | emit event args =>
    have hemit : Balanced "emit " ∧ Begins "emit " := by decide
    have hcall := Phrase.after hemit.1 hemit.2 (Expression.phrase_render (.call event args) h)
    exact (hcall.append phrase_end).lays
  | require condition message =>
    have hrequire : Turns [] "require(" [')'] ∧ Begins "require(" := by decide
    have hcomma : Balanced ", \"" := by decide
    have hclose : Turns [')'] "\");" [] ∧ Ends "\");" := by decide
    simp only [atoms, List.forall_mem_append, List.forall_mem_singleton] at h
    have hcondition := (condition.phrase_render h.1).balanced
    have hinner := ((hcondition.append hcomma).append h.2.bare.balanced).turns [')']
    have hturns := (hrequire.1.append hinner).append hclose.1
    simp only [← String.append_assoc] at hturns
    exact Phrase.lays ⟨hturns, (((hrequire.2.append _).append _).append _).append _,
      hclose.2.append _⟩
  | leave => exact Phrase.lays (by decide)
  | returnValue e =>
    have hreturn : Balanced "return " ∧ Begins "return " := by decide
    exact ((Phrase.after hreturn.1 hreturn.2 (e.phrase_render h)).append phrase_end).lays
  | when condition body =>
    have hif : Turns [] "if (" [')'] ∧ Begins "if (" := by decide
    have hopen : Turns [')'] ") \x7b" ['\x7d'] ∧ Ends ") \x7b" := by decide
    simp only [atoms, List.forall_mem_append] at h
    have hcondition := (condition.phrase_render h.1).balanced
    refine lays_block ((hif.2.append _).append _) (hopen.2.append _) ?_ (lays_bodyLines body h.2)
      (empty_notMem_bodyLines body)
    exact (hif.1.append (hcondition.turns _)).append hopen.1

theorem lays_bodyLines (ss : List Statement) (h : ∀ a ∈ atomsAll ss, Neat a) :
    Lays [] (bodyLines ss) [] := by
  cases ss with
  | nil => exact .nil
  | cons s ss =>
    simp only [atomsAll, List.forall_mem_append] at h
    exact (s.lays_lines h.1).append (lays_bodyLines ss h.2)
end

end Statement

/-! ## Declarations -/

/-- A word that stands behind a text only on a condition. -/
theorem phrase_append_ite {p : Prop} [Decidable p] {s t : String} (hs : Phrase s)
    (ht : Balanced t ∧ Ends t) : Phrase (s ++ if p then t else "") := by
  split
  · exact ⟨hs.balanced.append ht.1, hs.begins.append t, ht.2.append s⟩
  · simpa using hs

theorem Parameter.phrase_render {p : Parameter} (h : p.name = "" ∨ Neat p.name) :
    Phrase p.render := by
  have htype := phrase_append_ite (p := needsMemory p.type = true) p.type.phrase_name
    (by decide : Balanced " memory" ∧ Ends " memory")
  by_cases hname : p.name = ""
  · simpa [render, hname] using htype
  · have hnamed := htype.join balanced_blank (h.resolve_left hname).phrase
    simpa [render, hname, String.append_assoc] using hnamed

theorem StateType.phrase_render (t : StateType) : Phrase t.render := by
  cases t with
  | plain type => exact type.phrase_name
  | mapping key value =>
    have hmapping : Turns [] "mapping(" [')'] ∧ Begins "mapping(" := by decide
    have harrow : Balanced " => " := by decide
    have hinner := (key.phrase_name.join harrow value.phrase_name).balanced.turns [')']
    have hturns := (hmapping.1.append hinner).append turns_close
    simp only [← String.append_assoc] at hturns
    exact ⟨hturns, ((hmapping.2.append _).append _).append _ |>.append _, ends_close.append _⟩

namespace Declaration

theorem phrase_renderEventParameter {p : Parameter × Bool} (h : Neat p.1.name) :
    Phrase (renderEventParameter p) := by
  have htype := phrase_append_ite (p := p.2 = true) p.1.type.phrase_name
    (by decide : Balanced " indexed" ∧ Ends " indexed")
  exact htype.join balanced_blank h.phrase

theorem phrase_render (d : Declaration) (h : ∀ a ∈ d.atoms, Neat a) : Phrase d.render := by
  cases d with
  | «variable» type isPublic isConstant name value =>
    simp only [atoms, List.forall_mem_cons] at h
    have hshown : Balanced (if isPublic then " public" else " private") ∧
        Ends (if isPublic then " public" else " private") := by
      cases isPublic <;> decide
    have htype : Phrase (type.render ++ if isPublic then " public" else " private") :=
      ⟨type.phrase_render.balanced.append hshown.1, type.phrase_render.begins.append _,
        hshown.2.append _⟩
    have hconstant := phrase_append_ite (p := isConstant = true) htype
      (by decide : Balanced " constant" ∧ Ends " constant")
    have hnamed := hconstant.join balanced_blank h.1.phrase
    cases value with
    | none =>
      simp only [render, String.append_empty]
      exact hnamed.append phrase_end
    | some e =>
      have he := (hnamed.join balanced_becomes (e.phrase_render h.2)).append phrase_end
      simpa only [render, String.append_assoc] using he
  | event name params =>
    have hevent : Balanced "event " ∧ Begins "event " := by decide
    simp only [atoms, List.forall_mem_cons, List.forall_mem_map] at h
    have hparams : Balanced (", ".intercalate (params.map renderEventParameter)) := by
      refine balanced_intercalate balanced_comma ?_
      simp only [List.forall_mem_map]
      exact fun p hp => (phrase_renderEventParameter (h.2 p hp)).balanced
    have hname := Phrase.after hevent.1 hevent.2 h.1.phrase
    have hcall := (hname.call hparams).append phrase_end
    have hsplit : ");" = ")" ++ ";" := rfl
    simpa only [render, hsplit, String.append_assoc] using hcall

end Declaration

theorem StateBlock.lays_lines {b : StateBlock} (h : ∀ ds ∈ b, ∀ d ∈ ds, ∀ a ∈ d.atoms, Neat a) :
    Lays [] b.lines [] := by
  refine lays_intercalate ?_
  simp only [List.forall_mem_map]
  intro ds hds
  refine lays_of_phrases ?_
  simp only [List.forall_mem_map]
  exact fun d hd => d.phrase_render (h ds hds d hd)

/-! ## Functions -/

theorem Guard.balanced_render (g : Guard) (h : ∀ a ∈ g.atoms, Neat a) : Balanced g.render := by
  cases g with
  | onlyOwner | restricted => decide
  | onlyRole role =>
    have honly : Balanced "onlyRole" := by decide
    exact honly.enclosed (h role (by simp [atoms])).bare.balanced

namespace Function

variable {f : Function}

theorem balanced_overrideText {bases : List String} (h : ∀ a ∈ bases, Neat a) :
    Balanced (overrideText bases) := by
  have hoverride : Balanced "override" := by decide
  unfold overrideText
  split
  · exact hoverride
  · exact hoverride.enclosed (balanced_intercalate balanced_comma fun a ha =>
      (h a ha).bare.balanced)

theorem balanced_qualifiers (hguard : ∀ g ∈ f.guard, ∀ a ∈ g.atoms, Neat a)
    (hoverrides : ∀ bases ∈ f.overrides, ∀ a ∈ bases, Neat a) :
    ∀ q ∈ f.qualifiers, Balanced q := by
  intro q hq
  simp only [qualifiers, List.cons_append, List.mem_cons, List.mem_append, List.mem_map,
    Option.mem_toList] at hq
  rcases hq with rfl | ((⟨p, -, rfl⟩ | ⟨g, hg, rfl⟩) | ⟨bases, hbases, rfl⟩) | ⟨t, -, rfl⟩
  · cases f.visibility <;> decide
  · cases p <;> decide
  · exact g.balanced_render (hguard g hg)
  · exact balanced_overrideText (hoverrides bases hbases)
  · have hreturns : Balanced "returns " := by decide
    exact hreturns.enclosed t.phrase_name.balanced

theorem lays_lines (h : ∀ a ∈ f.atoms, Neat a) : Lays [] f.lines [] := by
  have hfunction : Balanced "function " ∧ Begins "function " := by decide
  have hbrace : Turns [] " \x7b" ['\x7d'] ∧ Ends " \x7b" := by decide
  simp only [atoms, List.cons_append, List.forall_mem_cons, List.forall_mem_append,
    List.forall_mem_map, List.forall_mem_flatMap, List.forall_mem_flatten, Option.mem_toList] at h
  obtain ⟨hname, ⟨⟨hparams, hguard⟩, hoverrides⟩, hbody⟩ := h
  have hlist : Balanced (", ".intercalate (f.params.map Parameter.render)) := by
    refine balanced_intercalate balanced_comma ?_
    simp only [List.forall_mem_map]
    exact fun p hp => (Parameter.phrase_render (.inr (hparams p hp))).balanced
  have hcall := (Phrase.after hfunction.1 hfunction.2 hname.phrase).call hlist
  have hqualifiers := balanced_intercalate balanced_blank (balanced_qualifiers hguard hoverrides)
  have hhead : f.headLine = "function " ++ f.name ++ "("
      ++ ", ".intercalate (f.params.map Parameter.render) ++ ")"
      ++ (" " ++ " ".intercalate f.qualifiers) ++ " \x7b" := by
    have hclose : ") " = ")" ++ " " := rfl
    simp only [headLine, hclose, String.append_assoc]
  rw [lines, hhead]
  refine lays_block ((hcall.begins.append _).append _) (hbrace.2.append _) ?_
    (Statement.lays_bodyLines f.body hbody) (Statement.empty_notMem_bodyLines f.body)
  exact ((hcall.balanced.append (balanced_blank.append hqualifiers)).turns []).append hbrace.1

end Function

/-! ## Contracts -/

/-- Parameters stand one step deeper than the bracket around them. -/
theorem lays_paramTexts {ps : List String} (h : ∀ p ∈ ps, Phrase p) :
    Lays [')'] (SourceUnit.paramTexts ps) [')'] := by
  have hcomma : Phrase "," := by decide
  have hparam {p : String} (hp : Phrase p) : Lays [')'] ["    " ++ p] [')'] :=
    lays_deeper hp.lays (by simpa using hp.ne_empty.symm) ')'
  induction ps with
  | nil => exact .nil
  | cons p ps ih =>
    obtain ⟨hp, hps⟩ := List.forall_mem_cons.mp h
    cases ps with
    | nil => exact hparam hp
    | cons q ps =>
      rw [SourceUnit.paramTexts, String.append_assoc]
      exact (hparam (hp.append hcomma)).append (ih hps)

namespace Contract

/-- The atoms of a contract are neat, and each statement of its constructor is one line. -/
structure Arranged (k : Contract) : Prop where
  name : Bare k.name
  imports : ∀ path ∈ k.imports, Bare path
  bases : ∀ b ∈ k.bases, Bare b
  params : ∀ p ∈ k.params, p.name = "" ∨ Neat p.name
  initializers : ∀ i ∈ k.initializers, Neat i.base ∧ ∀ a ∈ Expression.atomsAll i.args, Neat a
  statements : ∀ s ∈ k.statements, Phrase s.render
  state : ∀ b ∈ k.state, ∀ ds ∈ b, ∀ d ∈ ds, ∀ a ∈ d.atoms, Neat a
  functions : ∀ f ∈ k.functions, ∀ a ∈ f.atoms, Neat a

/-- The lines inside the braces of a contract, as if they stood outside of them. -/
def innerLines (k : Contract) : List String := [""].intercalate k.blocks

theorem sourceLines_eq (k : Contract) : k.sourceLines =
    k.toSourceUnit.aboveLines ++ (k.toSourceUnit.heading ++ "\x7b")
      :: k.innerLines.map SourceUnit.indentLine ++ ["\x7d", ""] := by
  rw [sourceLines, innerLines, SourceUnit.map_indentLine_intercalate, SourceUnit.topLines_eq]
  simp

namespace Arranged

variable {k : Contract}

theorem balanced_initializers (h : k.Arranged) :
    Balanced (String.join (k.toSourceUnit.initializers.map (" " ++ ·))) := by
  refine balanced_join ?_
  simp only [toSourceUnit, List.forall_mem_map]
  intro i hi
  obtain ⟨hbase, hargs⟩ := h.initializers i hi
  refine balanced_blank.append (Expression.phrase_render (.call i.base i.args) ?_).balanced
  simp only [Expression.atoms, List.forall_mem_cons]
  exact ⟨hbase, hargs⟩

theorem stands_initializerText (u : SourceUnit) : Stands 1 u.initializerText.toList := by
  have hclose : Ends " \x7b" := by decide
  have hends : Ends u.initializerText := hclose.append _
  have htext : u.initializerText.toList =
      ')' :: (String.join (u.initializers.map (" " ++ ·)) ++ " \x7b").toList := by
    simp [SourceUnit.initializerText]
  rw [Ends, htext] at hends
  rw [htext]
  refine .of_isClosing rfl ?_ hends
  cases u.initializers with
  | nil => rfl
  | cons i is => simp [String.join_cons, isClosing]

theorem lays_constructorLines (h : k.Arranged) :
    Lays [] k.toSourceUnit.constructorLines [] := by
  have hopen : Begins "constructor(" ∧ Ends "constructor(" ∧ Turns [] "constructor(" [')'] := by
    decide
  have hbrace : Turns [] " \x7b" ['\x7d'] := by decide
  have hparams : ∀ p ∈ k.toSourceUnit.params, Phrase p := by
    simp only [toSourceUnit, List.forall_mem_map]
    exact fun p hp => Parameter.phrase_render (h.params p hp)
  have hstatements : ∀ s ∈ k.toSourceUnit.statements, Phrase s := by
    simp only [toSourceUnit, List.forall_mem_map]
    exact h.statements
  have hinitializers : Lays [')'] [k.toSourceUnit.initializerText] ['\x7d'] := by
    have hturns := (turns_close.append (h.balanced_initializers.turns _)).append hbrace
    exact .line (stands_initializerText _) hturns .nil
  have hbody := lays_closing (lays_of_phrases hstatements) fun hempty =>
    (hstatements "" hempty).ne_empty rfl
  have hhead : Lays [] ["constructor("] [')'] :=
    .line (.of_begins hopen.1 hopen.2.1) hopen.2.2 .nil
  have hall := ((hhead.append (lays_paramTexts hparams)).append hinitializers).append hbody
  simpa only [SourceUnit.constructorLines, Statement.deeper, List.cons_append, List.nil_append,
    List.append_assoc] using hall

theorem lays_innerLines (h : k.Arranged) : Lays [] k.innerLines [] := by
  refine lays_intercalate ?_
  simp only [blocks, List.forall_mem_append, List.forall_mem_cons, List.forall_mem_map]
  exact ⟨fun b hb => StateBlock.lays_lines (h.state b hb), h.lays_constructorLines,
    fun f hf => Function.lays_lines (h.functions f hf)⟩

theorem bare_aboveLines (h : k.Arranged) : ∀ l ∈ k.toSourceUnit.aboveLines, Bare l := by
  have hfixed : ∀ l ∈ ["// SPDX-License-Identifier: MIT", "pragma solidity ^0.8.20;", ""],
      Bare l := by
    decide
  have himport : Bare "import \"" ∧ Bare "\";" := by decide
  simp only [SourceUnit.aboveLines, List.forall_mem_append, List.forall_mem_map,
    List.forall_mem_singleton]
  exact ⟨⟨hfixed, fun path hpath => (himport.1.append (h.imports path hpath)).append himport.2⟩,
    hfixed "" (by simp)⟩

theorem bare_heading (h : k.Arranged) : Bare k.toSourceUnit.heading := by
  have hfixed : ∀ s ∈ ["contract ", " is ", ", ", " ", ""], Bare s := by decide
  simp only [List.forall_mem_cons] at hfixed
  obtain ⟨hcontract, his, hcomma, hblank, hempty, -⟩ := hfixed
  refine ((hcontract.append h.name).append ?_).append hblank
  split
  · exact hempty
  · exact his.append (bare_intercalate hcomma h.bases)

/-- Above the brace that opens the contract there are no brackets. -/
theorem bare_front (h : k.Arranged) :
    Bare (String.join (k.toSourceUnit.aboveLines.map (· ++ "\n")) ++ k.toSourceUnit.heading) := by
  have hfeed : Bare "\n" := by decide
  refine (bare_join ?_).append h.bare_heading
  simp only [List.forall_mem_map]
  exact fun l hl => (h.bare_aboveLines l hl).append hfeed

theorem lays_aboveLines (h : k.Arranged) : Lays [] k.toSourceUnit.aboveLines [] := by
  have hlicence : Phrase "// SPDX-License-Identifier: MIT" := by decide
  have hpragma : Phrase "pragma solidity ^0.8.20;" := by decide
  have himport : Balanced "import \"" ∧ Begins "import \"" := by decide
  have hclose : Balanced "\";" ∧ Ends "\";" := by decide
  have himports : Lays [] (k.toSourceUnit.imports.map SourceUnit.importText) [] := by
    refine lays_of_phrases ?_
    simp only [List.forall_mem_map]
    intro path hpath
    exact ⟨(himport.1.append (h.imports path hpath).balanced).append hclose.1,
      (himport.2.append _).append _, hclose.2.append _⟩
  exact ((hlicence.lays.append (hpragma.lays.append (.empty .nil))).append himports).append
    (.empty .nil)

/-- The lines of a contract are laid out right, from the licence to the end. -/
theorem lays_sourceLines (h : k.Arranged) : Lays [] k.sourceLines [] := by
  have hopen : Turns [] "\x7b" ['\x7d'] ∧ Ends "\x7b" := by decide
  have hcontract : Begins "contract " := by decide
  have hheading : Lays [] [k.toSourceUnit.heading ++ "\x7b"] ['\x7d'] := by
    have hbegins : Begins k.toSourceUnit.heading := ((hcontract.append _).append _).append _
    exact .line (.of_begins (hbegins.append _) (hopen.2.append _))
      ((h.bare_heading.balanced.turns _).append hopen.1) .nil
  have hclose : Lays ['\x7d'] ["\x7d", ""] [] :=
    .line (.of_isClosing rfl rfl rfl) (by decide) (.empty .nil)
  have hall := ((h.lays_aboveLines.append hheading).append (h.lays_innerLines.deeper '\x7d')).append
    hclose
  rw [sourceLines_eq]
  simpa using hall

end Arranged

end Contract

end Solidity

end TokenLaunch
