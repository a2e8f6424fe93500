import TokenLaunch.Proofs.Decimal
import TokenLaunch.Proofs.Source.Blocks

/-!
# Atoms

The texts that a tree brings into its source.  All else in the source are the words of the language
and numbers, so that the lines of a tree whose atoms are lines are lines themselves.
-/

namespace TokenLaunch

namespace Text

@[simp]
theorem oneLine_append_iff {s t : String} : OneLine (s ++ t) ↔ OneLine s ∧ OneLine t := by
  simp only [OneLine, String.toList_append, List.mem_append, not_or]
  exact and_and_and_comm

theorem oneLine_intercalate {sep : String} {ss : List String} (hsep : OneLine sep)
    (h : ∀ s ∈ ss, OneLine s) : OneLine (sep.intercalate ss) :=
  intercalate_closed (by decide) (fun _ _ hs ht => oneLine_append_iff.mpr ⟨hs, ht⟩) hsep h

theorem oneLine_join {ss : List String} (h : ∀ s ∈ ss, OneLine s) : OneLine (String.join ss) :=
  join_closed (by decide) (fun _ _ hs ht => oneLine_append_iff.mpr ⟨hs, ht⟩) h

theorem notMem_decimal {x : Char} (h : x.isDigit = false) (n : Nat) : x ∉ (decimal n).toList := by
  intro hx
  rw [(isDigits_decimal n).2 x hx] at h
  cases h

theorem oneLine_decimal (n : Nat) : OneLine (decimal n) :=
  ⟨notMem_decimal rfl n, notMem_decimal rfl n⟩

/-! ## Punctuation -/

theorem oneLine_blank : OneLine " " := by decide

theorem oneLine_indent : OneLine "    " := by decide

theorem oneLine_comma : OneLine ", " := by decide

theorem oneLine_open : OneLine "(" := by decide

theorem oneLine_close : OneLine ")" := by decide

theorem oneLine_brace : OneLine " \x7b" := by decide

end Text

open Text

/-! ## Types -/

theorem Abi.oneLine_tupleName {names : List String} (h : ∀ s ∈ names, OneLine s) :
    OneLine (Abi.tupleName names) := by
  have hcomma : OneLine "," := by decide
  unfold Abi.tupleName
  split
  · have hclose : OneLine ",)" := by decide
    simp only [oneLine_append_iff]
    exact ⟨⟨oneLine_open, h _ List.mem_cons_self⟩, hclose⟩
  · simp only [oneLine_append_iff]
    exact ⟨⟨oneLine_open, oneLine_intercalate hcomma h⟩, oneLine_close⟩

mutual
theorem Abi.Ty.oneLine_name (t : Abi.Ty) : OneLine t.name := by
  cases t with
  | bool | address | function | bytes | string => simp only [Ty.name]; decide
  | int bits | uint bits | fixedBytes size =>
    simp only [Ty.name, oneLine_append_iff]
    exact ⟨by decide, oneLine_decimal _⟩
  | array item =>
    simp only [Ty.name, oneLine_append_iff]
    exact ⟨item.oneLine_name, by decide⟩
  | fixedArray item size =>
    simp only [Ty.name, oneLine_append_iff]
    exact ⟨⟨⟨item.oneLine_name, by decide⟩, oneLine_decimal _⟩, by decide⟩
  | tuple items =>
    simp only [Ty.name]
    exact oneLine_tupleName (Ty.oneLine_names items)

theorem Abi.Ty.oneLine_names (ts : List Abi.Ty) : ∀ s ∈ Abi.Ty.names ts, OneLine s := by
  cases ts with
  | nil => simp [Ty.names]
  | cons t ts =>
    simp only [Ty.names, List.forall_mem_cons]
    exact ⟨t.oneLine_name, Ty.oneLine_names ts⟩
end

namespace Solidity

/-! ## Expressions and statements -/

namespace Expression

mutual
/-- The names and texts in an expression. -/
def atoms : Expression → List String
  | name x => [x]
  | number _ => []
  | text s => [s]
  | call f args => f :: atomsAll args
  | entry mapping key => mapping :: key.atoms
  | not e => e.atoms
  | binary _ left right => left.atoms ++ right.atoms

def atomsAll : List Expression → List String
  | [] => []
  | e :: es => e.atoms ++ atomsAll es
end

theorem oneLine_bracketed (needed : Bool) {s : String} (h : OneLine s) :
    OneLine (bracketed needed s) := by
  cases needed with
  | false => exact h
  | true =>
    simp only [bracketed, if_true, oneLine_append_iff]
    exact ⟨⟨oneLine_open, h⟩, oneLine_close⟩

theorem oneLine_text (op : Operator) : OneLine op.text := by
  cases op <;> decide

mutual
theorem oneLine_render (e : Expression) (h : ∀ a ∈ e.atoms, OneLine a) : OneLine e.render := by
  cases e with
  | name x => exact h x (by simp [atoms])
  | number n => exact oneLine_decimal n
  | text s =>
    have hquote : OneLine "\"" := by decide
    simp only [render, oneLine_append_iff]
    exact ⟨⟨hquote, h s (by simp [atoms])⟩, hquote⟩
  | call f args =>
    simp only [atoms, List.forall_mem_cons] at h
    simp only [render, oneLine_append_iff]
    exact ⟨⟨⟨h.1, oneLine_open⟩, oneLine_intercalate oneLine_comma (oneLine_renderAll args h.2)⟩,
      oneLine_close⟩
  | entry mapping key =>
    have hopen : OneLine "[" := by decide
    have hclose : OneLine "]" := by decide
    simp only [atoms, List.forall_mem_cons] at h
    simp only [render, oneLine_append_iff]
    exact ⟨⟨⟨h.1, hopen⟩, oneLine_render key h.2⟩, hclose⟩
  | not e =>
    have hnot : OneLine "!" := by decide
    simp only [render, oneLine_append_iff]
    exact ⟨hnot, oneLine_bracketed _ (oneLine_render e h)⟩
  | binary op left right =>
    simp only [atoms, List.forall_mem_append] at h
    simp only [render, oneLine_append_iff]
    exact ⟨⟨⟨⟨oneLine_bracketed _ (oneLine_render left h.1), oneLine_blank⟩, oneLine_text op⟩,
      oneLine_blank⟩, oneLine_bracketed _ (oneLine_render right h.2)⟩

theorem oneLine_renderAll (es : List Expression) (h : ∀ a ∈ atomsAll es, OneLine a) :
    ∀ s ∈ renderAll es, OneLine s := by
  cases es with
  | nil => simp [renderAll]
  | cons e es =>
    simp only [atomsAll, List.forall_mem_append] at h
    simp only [renderAll, List.forall_mem_cons]
    exact ⟨oneLine_render e h.1, oneLine_renderAll es h.2⟩
end

end Expression

namespace Statement

mutual
/-- The names and texts in a statement. -/
def atoms : Statement → List String
  | eval e => e.atoms
  | assign target value => target.atoms ++ value.atoms
  | emit event args => (Expression.call event args).atoms
  | require condition message => condition.atoms ++ [message]
  | leave => []
  | returnValue e => e.atoms
  | when condition body => condition.atoms ++ atomsAll body

def atomsAll : List Statement → List String
  | [] => []
  | s :: ss => s.atoms ++ atomsAll ss
end

theorem mem_atomsAll {ss : List Statement} {a : String} :
    a ∈ atomsAll ss ↔ ∃ s ∈ ss, a ∈ s.atoms := by
  induction ss with
  | nil => simp [atomsAll]
  | cons s ss ih => simp [atomsAll, ih]

theorem oneLine_deeper {ls : List String} (h : ∀ l ∈ ls, OneLine l) :
    ∀ l ∈ deeper ls, OneLine l := by
  intro _ hdeep
  obtain ⟨l, hl, rfl⟩ := List.mem_map.mp hdeep
  rw [oneLine_append_iff]
  exact ⟨oneLine_indent, h l hl⟩

mutual
theorem oneLine_lines (s : Statement) (h : ∀ a ∈ s.atoms, OneLine a) :
    ∀ l ∈ s.lines, OneLine l := by
  have hend : OneLine ";" := by decide
  cases s with
  | eval e =>
    simp only [lines, List.forall_mem_singleton, oneLine_append_iff]
    exact ⟨e.oneLine_render h, hend⟩
  | assign target value =>
    have hbecomes : OneLine " = " := by decide
    simp only [atoms, List.forall_mem_append] at h
    simp only [lines, List.forall_mem_singleton, oneLine_append_iff]
    exact ⟨⟨⟨target.oneLine_render h.1, hbecomes⟩, value.oneLine_render h.2⟩, hend⟩
  | emit event args =>
    have hemit : OneLine "emit " := by decide
    simp only [lines, List.forall_mem_singleton, oneLine_append_iff]
    exact ⟨⟨hemit, Expression.oneLine_render _ h⟩, hend⟩
  | require condition message =>
    have hrequire : OneLine "require(" := by decide
    have hcomma : OneLine ", \"" := by decide
    have hclose : OneLine "\");" := by decide
    simp only [atoms, List.forall_mem_append, List.forall_mem_singleton] at h
    simp only [lines, List.forall_mem_singleton, oneLine_append_iff]
    exact ⟨⟨⟨⟨hrequire, condition.oneLine_render h.1⟩, hcomma⟩, h.2⟩, hclose⟩
  | leave =>
    simp only [lines, List.forall_mem_singleton]
    decide
  | returnValue e =>
    have hreturn : OneLine "return " := by decide
    simp only [lines, List.forall_mem_singleton, oneLine_append_iff]
    exact ⟨⟨hreturn, e.oneLine_render h⟩, hend⟩
  | when condition body =>
    have hif : OneLine "if (" := by decide
    have hopen : OneLine ") \x7b" := by decide
    have hclose : OneLine "\x7d" := by decide
    simp only [atoms, List.forall_mem_append] at h
    simp only [lines, List.cons_append, List.forall_mem_cons, List.forall_mem_append,
      List.not_mem_nil, false_implies, implies_true, and_true, oneLine_append_iff]
    exact ⟨⟨⟨hif, condition.oneLine_render h.1⟩, hopen⟩,
      oneLine_deeper (oneLine_bodyLines body h.2), hclose⟩

theorem oneLine_bodyLines (ss : List Statement) (h : ∀ a ∈ atomsAll ss, OneLine a) :
    ∀ l ∈ bodyLines ss, OneLine l := by
  cases ss with
  | nil => simp [bodyLines]
  | cons s ss =>
    simp only [atomsAll, List.forall_mem_append] at h
    simp only [bodyLines, List.forall_mem_append]
    exact ⟨oneLine_lines s h.1, oneLine_bodyLines ss h.2⟩
end

end Statement

/-! ## Declarations -/

theorem Parameter.oneLine_render {p : Parameter} (h : OneLine p.name) : OneLine p.render := by
  have hmemory : OneLine (if needsMemory p.type then " memory" else "") := by
    split <;> decide
  have hname : OneLine (if p.name.isEmpty then "" else " " ++ p.name) := by
    split
    · decide
    · rw [oneLine_append_iff]
      exact ⟨oneLine_blank, h⟩
  simp only [Parameter.render, oneLine_append_iff]
  exact ⟨⟨p.type.oneLine_name, hmemory⟩, hname⟩

theorem StateType.oneLine_render (t : StateType) : OneLine t.render := by
  cases t with
  | plain type => exact type.oneLine_name
  | mapping key value =>
    have hmapping : OneLine "mapping(" := by decide
    have harrow : OneLine " => " := by decide
    simp only [render, oneLine_append_iff]
    exact ⟨⟨⟨⟨hmapping, key.oneLine_name⟩, harrow⟩, value.oneLine_name⟩, oneLine_close⟩

namespace Declaration

/-- The names and texts in a declaration. -/
def atoms : Declaration → List String
  | «variable» _ _ _ name value => name :: (value.map Expression.atoms).getD []
  | event name params => name :: params.map (·.1.name)

theorem oneLine_renderEventParameter {p : Parameter × Bool} (h : OneLine p.1.name) :
    OneLine (renderEventParameter p) := by
  have hindexed : OneLine (if p.2 then " indexed" else "") := by
    split <;> decide
  simp only [renderEventParameter, oneLine_append_iff]
  exact ⟨⟨⟨p.1.type.oneLine_name, hindexed⟩, oneLine_blank⟩, h⟩

theorem oneLine_render (d : Declaration) (h : ∀ a ∈ d.atoms, OneLine a) : OneLine d.render := by
  cases d with
  | «variable» type isPublic isConstant name value =>
    simp only [atoms, List.forall_mem_cons] at h
    have hpublic : OneLine (if isPublic then " public" else " private") := by
      split <;> decide
    have hconstant : OneLine (if isConstant then " constant" else "") := by
      split <;> decide
    have hend : OneLine ";" := by decide
    simp only [render, oneLine_append_iff]
    refine ⟨⟨⟨⟨⟨⟨type.oneLine_render, hpublic⟩, hconstant⟩, oneLine_blank⟩, h.1⟩, ?_⟩, hend⟩
    cases value with
    | none => decide
    | some e =>
      have hbecomes : OneLine " = " := by decide
      rw [oneLine_append_iff]
      exact ⟨hbecomes, e.oneLine_render h.2⟩
  | event name params =>
    have hevent : OneLine "event " := by decide
    have hclose : OneLine ");" := by decide
    simp only [atoms, List.forall_mem_cons, List.forall_mem_map] at h
    simp only [render, oneLine_append_iff]
    refine ⟨⟨⟨⟨hevent, h.1⟩, oneLine_open⟩, oneLine_intercalate oneLine_comma ?_⟩, hclose⟩
    simp only [List.forall_mem_map]
    exact fun p hp => oneLine_renderEventParameter (h.2 p hp)

end Declaration

/-! ## Functions -/

def Guard.atoms : Guard → List String
  | onlyRole role => [role]
  | onlyOwner | restricted => []

theorem Guard.oneLine_render (g : Guard) (h : ∀ a ∈ g.atoms, OneLine a) : OneLine g.render := by
  cases g with
  | onlyOwner | restricted => decide
  | onlyRole role =>
    have honlyRole : OneLine "onlyRole(" := by decide
    simp only [render, oneLine_append_iff]
    exact ⟨⟨honlyRole, h role (by simp [atoms])⟩, oneLine_close⟩

namespace Function

/-- The names and texts in a function. -/
def atoms (f : Function) : List String :=
  f.name :: f.params.map (·.name) ++ f.guard.toList.flatMap Guard.atoms
    ++ f.overrides.toList.flatten ++ Statement.atomsAll f.body

variable {f : Function}

theorem oneLine_qualifiers (hguard : ∀ g ∈ f.guard, ∀ a ∈ g.atoms, OneLine a)
    (hoverrides : ∀ bases ∈ f.overrides, ∀ a ∈ bases, OneLine a) :
    ∀ q ∈ f.qualifiers, OneLine q := by
  intro q hq
  simp only [qualifiers, List.cons_append, List.mem_cons, List.mem_append, List.mem_map,
    Option.mem_toList] at hq
  rcases hq with rfl | ((⟨p, -, rfl⟩ | ⟨g, hg, rfl⟩) | ⟨bases, hbases, rfl⟩) | ⟨t, -, rfl⟩
  · cases f.visibility <;> decide
  · cases p <;> decide
  · exact g.oneLine_render (hguard g hg)
  · have hoverride : OneLine "override(" := by decide
    unfold overrideText
    split
    · decide
    · simp only [oneLine_append_iff]
      exact ⟨⟨hoverride, oneLine_intercalate oneLine_comma (hoverrides bases hbases)⟩,
        oneLine_close⟩
  · have hreturns : OneLine "returns (" := by decide
    simp only [oneLine_append_iff]
    exact ⟨⟨hreturns, t.oneLine_name⟩, oneLine_close⟩

theorem oneLine_lines (h : ∀ a ∈ f.atoms, OneLine a) : ∀ l ∈ f.lines, OneLine l := by
  have hfunction : OneLine "function " := by decide
  have hclose : OneLine ") " := by decide
  simp only [atoms, List.cons_append, List.forall_mem_cons, List.forall_mem_append,
    List.forall_mem_map, List.forall_mem_flatMap, List.forall_mem_flatten, Option.mem_toList] at h
  obtain ⟨hname, ⟨⟨hparams, hguard⟩, hoverrides⟩, hbody⟩ := h
  simp only [lines, List.cons_append, List.forall_mem_cons, List.forall_mem_append,
    List.not_mem_nil, false_implies, implies_true, and_true]
  refine ⟨?_, Statement.oneLine_deeper (Statement.oneLine_bodyLines f.body hbody), by decide⟩
  simp only [headLine, oneLine_append_iff]
  refine ⟨⟨⟨⟨⟨⟨hfunction, hname⟩, oneLine_open⟩, oneLine_intercalate oneLine_comma ?_⟩, hclose⟩,
    oneLine_intercalate oneLine_blank (oneLine_qualifiers hguard hoverrides)⟩, oneLine_brace⟩
  simp only [List.forall_mem_map]
  exact fun p hp => p.oneLine_render (hparams p hp)

end Function

end Solidity

end TokenLaunch
