import TokenLaunch.Proofs.Source.Identifiers
import TokenLaunch.Solidity.Contract

/-!
# What trees spell

The words of expressions, statements, declarations and functions, in the order in which their texts
spell them.  A tree is spelled right if its names are words and no text in it has a quote; then the
words of its text are those of the tree.
-/

namespace TokenLaunch.Solidity

open Text

theorem spells_congr {s : String} {ws vs : List String} (h : Spells s ws) (heq : ws = vs) :
    Spells s vs := heq ▸ h

/-- A text that stands behind another only on a condition. -/
theorem spells_append_ite {p : Prop} [Decidable p] {s t : String} {ws vs : List String}
    (hs : Spells s ws) (ht : Spells t vs) (hdivides : Divides t) :
    Spells (s ++ if p then t else "") (ws ++ if p then vs else []) := by
  split
  · exact hs.append ht hdivides
  · simpa using hs

/-! ## Punctuation -/

theorem closes_blank : Closes " " [] ∧ Divides " " := by decide

theorem closes_indent : Closes "    " [] := by decide

theorem closes_comma : Closes ", " [] ∧ Divides ", " := by decide

theorem closes_open : Closes "(" [] ∧ Divides "(" := by decide

theorem closes_close : Closes ")" [] ∧ Divides ")" := by decide

theorem closes_end : Closes ";" [] ∧ Divides ";" := by decide

theorem closes_becomes : Closes " = " [] ∧ Divides " = " := by decide

theorem closes_newline : Closes "\n" [] ∧ Divides "\n" := by decide

/-! ## Expressions -/

namespace Expression

mutual
/-- Names are words, and texts have no quotes. -/
def isSpelled : Expression → Bool
  | name x => isWord x
  | number _ => true
  | text s => !s.toList.contains '"'
  | call f args => isWord f && allSpelled args
  | entry mapping key => isWord mapping && key.isSpelled
  | not e => e.isSpelled
  | binary _ left right => left.isSpelled && right.isSpelled

def allSpelled : List Expression → Bool
  | [] => true
  | e :: es => e.isSpelled && allSpelled es
end

mutual
/-- The words of an expression. -/
def words : Expression → List String
  | name x => [x]
  | number _ | text _ => []
  | call f args => f :: wordsAll args
  | entry mapping key => mapping :: key.words
  | not e => e.words
  | binary _ left right => left.words ++ right.words

def wordsAll : List Expression → List String
  | [] => []
  | e :: es => e.words ++ wordsAll es
end

theorem spells_bracketed (needed : Bool) {s : String} {ws : List String} (h : Spells s ws) :
    Spells (bracketed needed s) ws := by
  cases needed with
  | false => exact h
  | true =>
    have hclosed := (closes_open.1.append_spells h).append_closes closes_close.1 closes_close.2
    exact spells_congr hclosed.spells (by simp)

theorem closes_text (op : Operator) : Closes op.text [] := by
  cases op <;> decide

mutual
theorem spells_render (e : Expression) (h : e.isSpelled = true) : Spells e.render e.words := by
  cases e with
  | name x => exact spells_of_isWord h
  | number n => exact spells_decimal n
  | text s => exact (closes_quoted (by simpa [isSpelled] using h)).spells
  | call f args =>
    rw [isSpelled, Bool.and_eq_true] at h
    have hargs := (spellAll_renderAll args h.2).intercalate closes_comma.1 closes_comma.2
    have hopen := (spells_of_isWord h.1).append_closes closes_open.1 closes_open.2
    have hclosed := (hopen.append_spells hargs).append_closes closes_close.1 closes_close.2
    exact spells_congr hclosed.spells (by simp [words])
  | entry mapping key =>
    have hopen : Closes "[" [] ∧ Divides "[" := by decide
    have hclose : Closes "]" [] ∧ Divides "]" := by decide
    rw [isSpelled, Bool.and_eq_true] at h
    have hmapping := (spells_of_isWord h.1).append_closes hopen.1 hopen.2
    have hclosed := (hmapping.append_spells (key.spells_render h.2)).append_closes hclose.1 hclose.2
    exact spells_congr hclosed.spells (by simp [words])
  | not e =>
    have hnot : Closes "!" [] := by decide
    exact hnot.append_spells (spells_bracketed _ (e.spells_render h))
  | binary op left right =>
    rw [isSpelled, Bool.and_eq_true] at h
    have hleft := (spells_bracketed (left.level < op.level)
      (left.spells_render h.1)).append_closes closes_blank.1 closes_blank.2
    have hop := (hleft.append (closes_text op)).append closes_blank.1
    have hright := spells_bracketed (right.level ≤ op.level) (right.spells_render h.2)
    exact spells_congr (hop.append_spells hright) (by simp [words])

theorem spellAll_renderAll (es : List Expression) (h : allSpelled es = true) :
    SpellAll (renderAll es) (wordsAll es) := by
  cases es with
  | nil => exact .nil
  | cons e es =>
    rw [allSpelled, Bool.and_eq_true] at h
    exact .cons (e.spells_render h.1) (spellAll_renderAll es h.2)
end

end Expression

/-! ## Statements -/

namespace Statement

mutual
def isSpelled : Statement → Bool
  | eval e => e.isSpelled
  | assign target value => target.isSpelled && value.isSpelled
  | emit event args => (Expression.call event args).isSpelled
  | require condition message => condition.isSpelled && !message.toList.contains '"'
  | leave => true
  | returnValue e => e.isSpelled
  | when condition body => condition.isSpelled && allSpelled body

def allSpelled : List Statement → Bool
  | [] => true
  | s :: ss => s.isSpelled && allSpelled ss
end

mutual
/-- The words of a statement. -/
def words : Statement → List String
  | eval e => e.words
  | assign target value => target.words ++ value.words
  | emit event args => "emit" :: (Expression.call event args).words
  | require condition _ => "require" :: condition.words
  | leave => ["return"]
  | returnValue e => "return" :: e.words
  | when condition body => "if" :: condition.words ++ wordsAll body

def wordsAll : List Statement → List String
  | [] => []
  | s :: ss => s.words ++ wordsAll ss
end

theorem mem_wordsAll {ss : List Statement} {w : String} :
    w ∈ wordsAll ss ↔ ∃ s ∈ ss, w ∈ s.words := by
  induction ss with
  | nil => simp [wordsAll]
  | cons s ss ih => simp [wordsAll, ih]

mutual
theorem spellAll_lines (s : Statement) (h : s.isSpelled = true) : SpellAll s.lines s.words := by
  cases s with
  | eval e =>
    have hclosed := (e.spells_render h).append_closes closes_end.1 closes_end.2
    exact .singleton (spells_congr hclosed.spells (by simp [words]))
  | assign target value =>
    rw [isSpelled, Bool.and_eq_true] at h
    have htarget := (target.spells_render h.1).append_closes closes_becomes.1 closes_becomes.2
    have hclosed := (htarget.append_spells (value.spells_render h.2)).append_closes closes_end.1
      closes_end.2
    exact .singleton (spells_congr hclosed.spells (by simp [words]))
  | emit event args =>
    have hemit : Closes "emit " ["emit"] := by decide
    have hcall := Expression.spells_render (.call event args) h
    have hclosed := (hemit.append_spells hcall).append_closes closes_end.1 closes_end.2
    exact .singleton (spells_congr hclosed.spells (by simp [words]))
  | require condition message =>
    have hrequire : Closes "require(" ["require"] := by decide
    have hend : Closes ");" [] := by decide
    rw [isSpelled, Bool.and_eq_true] at h
    have hcondition := (hrequire.append_spells (condition.spells_render h.1)).append_closes
      closes_comma.1 closes_comma.2
    have hclosed := (hcondition.append (closes_quoted (by simpa using h.2))).append hend
    -- the text opens its quotes together with the comma before them
    have hquotes : ", \"" = ", " ++ "\"" ∧ "\");" = "\"" ++ ");" := ⟨rfl, rfl⟩
    simp only [lines, words, hquotes.1, hquotes.2]
    simp only [← String.append_assoc] at hclosed ⊢
    exact .singleton (spells_congr hclosed.spells (by simp))
  | leave => exact .singleton (by decide : Closes "return;" ["return"]).spells
  | returnValue e =>
    have hreturn : Closes "return " ["return"] := by decide
    have hclosed := (hreturn.append_spells (e.spells_render h)).append_closes closes_end.1
      closes_end.2
    exact .singleton (spells_congr hclosed.spells (by simp [words]))
  | when condition body =>
    have hif : Closes "if (" ["if"] := by decide
    have hopen : Closes ") \x7b" [] ∧ Divides ") \x7b" := by decide
    have hclose : Closes "\x7d" [] := by decide
    rw [isSpelled, Bool.and_eq_true] at h
    have hcondition := (hif.append_spells (condition.spells_render h.1)).append_closes hopen.1
      hopen.2
    have hbody := (spellAll_bodyLines body h.2).map_append closes_indent
    have hlines := (SpellAll.cons hcondition.spells hbody).append (.singleton hclose.spells)
    simpa [lines, words, deeper] using hlines

theorem spellAll_bodyLines (ss : List Statement) (h : allSpelled ss = true) :
    SpellAll (bodyLines ss) (wordsAll ss) := by
  cases ss with
  | nil => exact .nil
  | cons s ss =>
    rw [allSpelled, Bool.and_eq_true] at h
    exact (s.spellAll_lines h.1).append (spellAll_bodyLines ss h.2)
end

theorem spells_render {s : Statement} (h : s.isSpelled = true) : Spells s.render s.words :=
  (s.spellAll_lines h).intercalate closes_newline.1 closes_newline.2

end Statement

theorem Initializer.spells_render {i : Initializer} (hbase : isWord i.base = true)
    (hargs : Expression.allSpelled i.args = true) :
    Spells i.render (i.base :: Expression.wordsAll i.args) := by
  refine Expression.spells_render (.call i.base i.args) ?_
  rw [Expression.isSpelled, hbase, hargs]
  rfl

/-! ## Parameters and state -/

namespace Parameter

/-- The type of a parameter is one word, and its name is another if there is one. -/
def isSpelled (p : Parameter) : Bool :=
  isWord p.type.name && (p.name.isEmpty || isWord p.name)

def words (p : Parameter) : List String :=
  p.type.name :: (if needsMemory p.type then ["memory"] else [])
    ++ (if p.name.isEmpty then [] else [p.name])

theorem spells_render {p : Parameter} (h : p.isSpelled = true) : Spells p.render p.words := by
  have hmemory : Spells " memory" ["memory"] := by decide
  rw [isSpelled, Bool.and_eq_true, Bool.or_eq_true] at h
  have htype := spells_append_ite (p := needsMemory p.type = true) (spells_of_isWord h.1) hmemory
    (by decide)
  unfold render words
  by_cases hname : p.name.isEmpty = true
  · rw [if_pos hname, if_pos hname]
    simpa using htype
  · rw [if_neg hname, if_neg hname]
    have hblank := closes_blank.1.append_spells (spells_of_isWord (h.2.resolve_left hname))
    exact htype.append hblank (closes_blank.2.append _)

end Parameter

namespace StateType

def isSpelled : StateType → Bool
  | plain type => isWord type.name
  | mapping key value => isWord key.name && isWord value.name

def words : StateType → List String
  | plain type => [type.name]
  | mapping key value => ["mapping", key.name, value.name]

theorem spells_render {t : StateType} (h : t.isSpelled = true) : Spells t.render t.words := by
  cases t with
  | plain type => exact spells_of_isWord h
  | mapping key value =>
    have hmapping : Closes "mapping(" ["mapping"] := by decide
    have harrow : Closes " => " [] ∧ Divides " => " := by decide
    rw [isSpelled, Bool.and_eq_true] at h
    have hkey := (hmapping.append_spells (spells_of_isWord h.1)).append_closes harrow.1 harrow.2
    have hclosed := (hkey.append_spells (spells_of_isWord h.2)).append_closes closes_close.1
      closes_close.2
    exact hclosed.spells

end StateType

namespace Declaration

def isSpelled : Declaration → Bool
  | «variable» type _ _ name value =>
    type.isSpelled && isWord name && value.all Expression.isSpelled
  | event name params =>
    isWord name && params.all fun p => isWord p.1.type.name && isWord p.1.name

def eventWords (p : Parameter × Bool) : List String :=
  p.1.type.name :: (if p.2 then ["indexed"] else []) ++ [p.1.name]

/-- The words of a declaration. -/
def words : Declaration → List String
  | «variable» type isPublic isConstant name value =>
    type.words ++ [if isPublic then "public" else "private"]
      ++ (if isConstant then ["constant"] else []) ++ name :: (value.map Expression.words).getD []
  | event name params => "event" :: name :: params.flatMap eventWords

theorem spells_renderEventParameter {p : Parameter × Bool} (htype : isWord p.1.type.name = true)
    (hname : isWord p.1.name = true) : Spells (renderEventParameter p) (eventWords p) := by
  have hindexed : Spells " indexed" ["indexed"] := by decide
  have hleft := (spells_append_ite (p := p.2 = true) (spells_of_isWord htype) hindexed
    (by decide)).append_closes closes_blank.1 closes_blank.2
  exact spells_congr (hleft.append_spells (spells_of_isWord hname)) (by simp [eventWords])

theorem spells_render {d : Declaration} (h : d.isSpelled = true) : Spells d.render d.words := by
  cases d with
  | «variable» type isPublic isConstant name value =>
    simp only [isSpelled, Bool.and_eq_true] at h
    obtain ⟨⟨htype, hname⟩, hvalue⟩ := h
    have hshown : Spells (if isPublic then " public" else " private")
        [if isPublic then "public" else "private"] ∧
          Divides (if isPublic then " public" else " private") := by
      cases isPublic <;> decide
    have hconstant : Spells " constant" ["constant"] := by decide
    have hleft := spells_append_ite (p := isConstant = true)
      ((type.spells_render htype).append hshown.1 hshown.2) hconstant (by decide)
    have hnamed := (hleft.append_closes closes_blank.1 closes_blank.2).append_spells
      (spells_of_isWord hname)
    cases value with
    | none =>
      have hclosed := hnamed.append_closes closes_end.1 closes_end.2
      simp only [render, String.append_empty]
      exact spells_congr hclosed.spells (by simp [words])
    | some e =>
      have he := closes_becomes.1.append_spells (e.spells_render hvalue)
      have hclosed := (hnamed.append he (closes_becomes.2.append _)).append_closes closes_end.1
        closes_end.2
      simp only [render]
      exact spells_congr hclosed.spells (by simp [words])
  | event name params =>
    have hevent : Closes "event " ["event"] := by decide
    have hend : Closes ");" [] ∧ Divides ");" := by decide
    simp only [isSpelled, Bool.and_eq_true, List.all_eq_true] at h
    have hname := (hevent.append_spells (spells_of_isWord h.1)).append_closes closes_open.1
      closes_open.2
    have hparams := (spellAll_map fun p hp => spells_renderEventParameter (h.2 p hp).1
      (h.2 p hp).2).intercalate closes_comma.1 closes_comma.2
    have hclosed := (hname.append_spells hparams).append_closes hend.1 hend.2
    simp only [render]
    exact spells_congr hclosed.spells (by simp [words])

end Declaration

theorem StateBlock.spells_render {b : StateBlock}
    (h : ∀ ds ∈ b, ∀ d ∈ ds, d.isSpelled = true) :
    Spells b.render (b.flatMap fun ds => ds.flatMap Declaration.words) := by
  have hgap : Closes "\n\n" [] ∧ Divides "\n\n" := by decide
  refine (spellAll_map fun ds hds => ?_).intercalate hgap.1 hgap.2
  exact (spellAll_map fun d hd => Declaration.spells_render (h ds hds d hd)).intercalate
    closes_newline.1 closes_newline.2

/-! ## Functions -/

namespace Guard

def isSpelled : Guard → Bool
  | onlyRole role => isWord role
  | onlyOwner | restricted => true

def words : Guard → List String
  | onlyOwner => ["onlyOwner"]
  | onlyRole role => ["onlyRole", role]
  | restricted => ["restricted"]

theorem spells_render {g : Guard} (h : g.isSpelled = true) : Spells g.render g.words := by
  cases g with
  | onlyOwner => decide
  | restricted => decide
  | onlyRole role =>
    have honly : Closes "onlyRole(" ["onlyRole"] := by decide
    have hclosed := (honly.append_spells (spells_of_isWord h)).append_closes closes_close.1
      closes_close.2
    exact hclosed.spells

end Guard

namespace Function

def isSpelled (f : Function) : Bool :=
  isWord f.name && f.params.all Parameter.isSpelled && f.guard.all Guard.isSpelled
    && f.overrides.all (·.all isWord) && f.returns.all (isWord ·.name)
    && Statement.allSpelled f.body

/-- The words between the parameters of a function and its body. -/
def headWords (f : Function) : List String :=
  f.visibility.render :: f.purity.toList.map Purity.render ++ f.guard.toList.flatMap Guard.words
    ++ f.overrides.toList.flatMap ("override" :: ·)
    ++ f.returns.toList.flatMap fun t => ["returns", t.name]

/-- The words of a function. -/
def words (f : Function) : List String :=
  "function" :: f.name :: f.params.flatMap Parameter.words ++ f.headWords
    ++ Statement.wordsAll f.body

theorem spells_overrideText {bases : List String} (h : ∀ b ∈ bases, isWord b = true) :
    Spells (overrideText bases) ("override" :: bases) := by
  unfold overrideText
  split
  · rename_i hnil
    rw [List.isEmpty_iff.mp hnil]
    decide
  · have hoverride : Closes "override(" ["override"] := by decide
    have hbases : SpellAll (bases.map id) (bases.flatMap fun b => [b]) :=
      spellAll_map fun b hb => spells_of_isWord (h b hb)
    have hlist := hbases.intercalate closes_comma.1 closes_comma.2
    have hclosed := (hoverride.append_spells hlist).append_closes closes_close.1 closes_close.2
    simpa using hclosed.spells

variable {f : Function}

theorem spells_qualifiers (h : f.isSpelled = true) :
    Spells (" ".intercalate f.qualifiers) f.headWords := by
  simp only [isSpelled, Bool.and_eq_true, Option.all_eq_true, List.all_eq_true] at h
  obtain ⟨⟨⟨⟨-, hguard⟩, hoverrides⟩, hreturns⟩, -⟩ := h
  have hvisibility : Spells f.visibility.render [f.visibility.render] := by
    cases f.visibility <;> decide
  have hpurity (p : Purity) : Spells p.render [p.render] := by
    cases p <;> decide
  have hreturned (t : Abi.Ty) (ht : isWord t.name = true) :
      Spells ("returns (" ++ t.name ++ ")") ["returns", t.name] := by
    have hleft : Closes "returns (" ["returns"] := by decide
    have hclosed := (hleft.append_spells (spells_of_isWord ht)).append_closes closes_close.1
      closes_close.2
    exact hclosed.spells
  have hpurities := spellAll_map fun p (_ : p ∈ f.purity.toList) => hpurity p
  have hguards := spellAll_map fun g (hg : g ∈ f.guard.toList) =>
    Guard.spells_render (hguard g (Option.mem_toList.mp hg))
  have hoverride := spellAll_map fun bases (hb : bases ∈ f.overrides.toList) =>
    spells_overrideText (hoverrides bases (Option.mem_toList.mp hb))
  have hreturn := spellAll_map fun t (ht : t ∈ f.returns.toList) =>
    hreturned t (hreturns t (Option.mem_toList.mp ht))
  have hall := (((SpellAll.cons hvisibility hpurities).append hguards).append hoverride).append
    hreturn
  refine spells_congr (hall.intercalate closes_blank.1 closes_blank.2) ?_
  rw [headWords, List.map_eq_flatMap]
  rfl

theorem spells_headLine (h : f.isSpelled = true) : Spells f.headLine
    ("function" :: f.name :: f.params.flatMap Parameter.words ++ f.headWords) := by
  have hfunction : Closes "function " ["function"] := by decide
  have hclose : Closes ") " [] ∧ Divides ") " := by decide
  have hbrace : Closes " \x7b" [] ∧ Divides " \x7b" := by decide
  have hqualifiers := spells_qualifiers h
  simp only [isSpelled, Bool.and_eq_true, List.all_eq_true] at h
  obtain ⟨⟨⟨⟨⟨hname, hparams⟩, -⟩, -⟩, -⟩, -⟩ := h
  have hopened := (hfunction.append_spells (spells_of_isWord hname)).append_closes closes_open.1
    closes_open.2
  have hlist := (spellAll_map fun p hp => Parameter.spells_render (hparams p hp)).intercalate
    closes_comma.1 closes_comma.2
  have hclosed := (hopened.append_spells hlist).append_closes hclose.1 hclose.2
  have hhead := (hclosed.append_spells hqualifiers).append_closes hbrace.1 hbrace.2
  exact spells_congr hhead.spells (by simp)

/-- The text of a function spells its words. -/
theorem spells_render (h : f.isSpelled = true) : Spells f.render f.words := by
  have hbrace : Closes "\x7d" [] := by decide
  have hhead := spells_headLine h
  rw [isSpelled, Bool.and_eq_true] at h
  have hbody := (Statement.spellAll_bodyLines f.body h.2).map_append closes_indent
  have hlines := (SpellAll.cons hhead hbody).append (.singleton hbrace.spells)
  refine spells_congr (hlines.intercalate closes_newline.1 closes_newline.2) ?_
  simp [words]

end Function

end TokenLaunch.Solidity
