import TokenLaunch.Proofs.Source.Functions
import TokenLaunch.Proofs.Source.Spelling

/-!
# Heads of functions

What the text of a function shows before its body: its name, its parameters in the first brackets,
and behind them what qualifies it.  The functions and the state of a generated contract are spelled
right, so that their words can be read off the blocks of its source.
-/

namespace TokenLaunch

namespace Text

/-- What stands in the first brackets of a text. -/
def firstBrackets (s : String) : String :=
  String.ofList ((s.toList.dropWhile (· ≠ '(')).tail.takeWhile (· ≠ ')'))

/-- What stands behind the first brackets of a text, up to the first brace. -/
def behindBrackets (s : String) : String :=
  String.ofList ((s.toList.dropWhile (· ≠ ')')).tail.takeWhile (· ≠ '\x7b'))

/-- The name of the function in a block: the word behind the first. -/
def blockName (block : String) : String := (identifiers block).tail.headD ""

/-! ## Characters that a text lacks -/

theorem notMem_of_isWord {s : String} {x : Char} (h : isWord s = true)
    (hx : isWordChar x = false) : x ∉ s.toList := by
  unfold isWord at h
  split at h
  · cases h
  · rename_i hs
    rw [Bool.and_eq_true, List.all_eq_true] at h
    rw [hs]
    intro hmem
    rw [h.2 x hmem] at hx
    cases hx

theorem tail_dropWhile_ne {pre cs : List Char} {x : Char} (h : x ∉ pre) :
    ((pre ++ x :: cs).dropWhile (· ≠ x)).tail = cs := by
  have hpre : ∀ c ∈ pre, decide (c ≠ x) = true := fun c hc =>
    decide_eq_true (ne_of_mem_of_not_mem hc h)
  rw [List.dropWhile_append_of_pos hpre, List.dropWhile_cons_of_neg (by simp), List.tail_cons]

end Text

open Text

namespace Solidity

theorem Parameter.notMem_render {p : Parameter} {x : Char} (h : p.isSpelled = true)
    (hx : isWordChar x = false) (hblank : x ≠ ' ') : x ∉ p.render.toList := by
  have hword {s : String} (hs : isWord s = true) : x ∉ s.toList := notMem_of_isWord hs hx
  have hmark : x ∉ " ".toList := by simpa using hblank
  rw [isSpelled, Bool.and_eq_true, Bool.or_eq_true] at h
  refine notMem_append (notMem_append (hword h.1) ?_) ?_
  · split
    · have hmemory : " memory" = " " ++ "memory" := by simp
      rw [hmemory]
      exact notMem_append hmark (hword (by decide))
    · simp
  · split
    · simp
    · rename_i hname
      exact notMem_append hmark (hword (h.2.resolve_left hname))

namespace Function

variable {f : Function}

/-- The parameters of a function as its text has them. -/
def paramText (f : Function) : String := ", ".intercalate (f.params.map Parameter.render)

theorem notMem_paramText {x : Char} (h : f.isSpelled = true) (hx : isWordChar x = false)
    (hblank : x ≠ ' ') (hcomma : x ≠ ',') : x ∉ f.paramText.toList := by
  simp only [isSpelled, Bool.and_eq_true, List.all_eq_true] at h
  refine notMem_intercalate (by simp [hblank, hcomma]) ?_
  simp only [List.forall_mem_map]
  exact fun p hp => Parameter.notMem_render (h.1.1.1.1.2 p hp) hx hblank

theorem notMem_qualifiers (h : f.isSpelled = true) :
    '\x7b' ∉ (" ".intercalate f.qualifiers).toList := by
  have hword {s : String} (hs : isWord s = true) : '\x7b' ∉ s.toList :=
    notMem_of_isWord hs (by decide)
  simp only [isSpelled, Bool.and_eq_true, Option.all_eq_true, List.all_eq_true] at h
  obtain ⟨⟨⟨⟨-, hguard⟩, hoverrides⟩, hreturns⟩, -⟩ := h
  refine notMem_intercalate (by decide) ?_
  intro q hq
  simp only [qualifiers, List.cons_append, List.mem_cons, List.mem_append, List.mem_map,
    Option.mem_toList] at hq
  rcases hq with rfl | ((⟨p, -, rfl⟩ | ⟨g, hg, rfl⟩) | ⟨bases, hbases, rfl⟩) | ⟨t, ht, rfl⟩
  · cases f.visibility <;> decide
  · cases p <;> decide
  · have hg := hguard g hg
    cases g with
    | onlyOwner | restricted => decide
    | onlyRole role => exact notMem_append (notMem_append (by decide) (hword hg)) (by decide)
  · unfold overrideText
    split
    · decide
    · exact notMem_append (notMem_append (by decide) (notMem_intercalate (by decide)
        fun b hb => hword (hoverrides bases hbases b hb))) (by decide)
  · exact notMem_append (notMem_append (by decide) (hword (hreturns t ht))) (by decide)

theorem toList_render (f : Function) : ∃ rest, f.render.toList =
    "function ".toList ++ f.name.toList ++ '(' :: (f.paramText.toList ++ ')' ::
      ((" " ++ " ".intercalate f.qualifiers ++ " ").toList ++ '\x7b' :: rest)) := by
  have hlines : f.lines = f.headLine :: (Statement.deeper (Statement.bodyLines f.body) ++
    ["\x7d"]) := rfl
  refine ⟨("\n" ++ "\n".intercalate (Statement.deeper (Statement.bodyLines f.body) ++
    ["\x7d"])).toList, ?_⟩
  have hclose : ") ".toList = [')', ' '] := rfl
  have hbrace : " \x7b".toList = [' ', '\x7b'] := rfl
  rw [render, hlines, String.intercalate_cons_of_ne_nil (by simp), headLine, ← paramText]
  simp [hclose, hbrace]

theorem identifiers_render (h : f.isSpelled = true) : identifiers f.render = f.words :=
  (spells_render h).identifiers

theorem blockName_render (h : f.isSpelled = true) : blockName f.render = f.name := by
  rw [blockName, identifiers_render h]
  rfl

theorem firstBrackets_render (h : f.isSpelled = true) : firstBrackets f.render = f.paramText := by
  obtain ⟨rest, hrest⟩ := f.toList_render
  have hname : '(' ∉ "function ".toList ++ f.name.toList := by
    simp only [isSpelled, Bool.and_eq_true] at h
    rw [List.mem_append, not_or]
    exact ⟨by decide, notMem_of_isWord h.1.1.1.1.1 (by decide)⟩
  have hparams : ')' ∉ f.paramText.toList :=
    notMem_paramText h (by decide) (by decide) (by decide)
  rw [firstBrackets, hrest, tail_dropWhile_ne hname, takeWhile_ne_append hparams,
    String.ofList_toList]

/-- The words in the brackets of a function are those of its parameters. -/
theorem identifiers_firstBrackets (h : f.isSpelled = true) :
    identifiers (firstBrackets f.render) = f.params.flatMap Parameter.words := by
  rw [firstBrackets_render h]
  simp only [isSpelled, Bool.and_eq_true, List.all_eq_true] at h
  have hspells := spellAll_map fun p hp => Parameter.spells_render (h.1.1.1.1.2 p hp)
  exact (hspells.intercalate closes_comma.1 closes_comma.2).identifiers

theorem behindBrackets_render (h : f.isSpelled = true) :
    behindBrackets f.render = " " ++ " ".intercalate f.qualifiers ++ " " := by
  obtain ⟨rest, hrest⟩ := f.toList_render
  have hfront : ')' ∉ "function ".toList ++ f.name.toList ++ '(' :: f.paramText.toList := by
    have hparams : ')' ∉ f.paramText.toList :=
      notMem_paramText h (by decide) (by decide) (by decide)
    simp only [isSpelled, Bool.and_eq_true] at h
    simp only [List.mem_append, List.mem_cons, not_or]
    exact ⟨⟨by decide, notMem_of_isWord h.1.1.1.1.1 (by decide)⟩, by decide, hparams⟩
  have hbrace : '\x7b' ∉ (" " ++ " ".intercalate f.qualifiers ++ " ").toList :=
    notMem_append (notMem_append (by decide) (notMem_qualifiers h)) (by decide)
  rw [behindBrackets, hrest, ← List.cons_append, ← List.append_assoc, tail_dropWhile_ne hfront,
    takeWhile_ne_append hbrace, String.ofList_toList]

/-- The words behind the brackets of a function are those that qualify it. -/
theorem identifiers_behindBrackets (h : f.isSpelled = true) :
    identifiers (behindBrackets f.render) = f.headWords := by
  have hclosed := (closes_blank.1.append_spells (spells_qualifiers h)).append_closes closes_blank.1
    closes_blank.2
  rw [behindBrackets_render h, hclosed.spells.identifiers, List.append_nil, List.nil_append]

end Function

end Solidity

namespace Synthesis

open Solidity

variable {c : TokenConfig}

/-! ## Generated functions -/

theorem headWords_privileged (name : String) (visibility : Visibility) (g : Guard)
    (params : List Parameter) (body : List Statement) :
    (privileged name visibility g params body).headWords = visibility.render :: g.words := by
  simp [Function.headWords, privileged]

theorem qualifiers_privileged (name : String) (visibility : Visibility) (g : Guard)
    (params : List Parameter) (body : List Statement) :
    (privileged name visibility g params body).qualifiers = [visibility.render, g.render] := rfl

theorem isSpelled_guard {access : AccessControl} {role : String} {g : Guard}
    (h : guard access role = some g) (hrole : isWord role = true) : g.isSpelled = true := by
  cases access with
  | none => cases h
  | ownable | manager =>
    cases h
    rfl
  | roles =>
    cases h
    exact hrole

theorem isSpelled_privileged {name : String} {visibility : Visibility} {access : AccessControl}
    {role : String} {g : Guard} {params : List Parameter} {body : List Statement}
    (hg : guard access role = some g) (hrole : isWord role = true)
    (h : (isWord name && params.all Parameter.isSpelled && Statement.allSpelled body) = true) :
    (privileged name visibility g params body).isSpelled = true := by
  simp only [Bool.and_eq_true] at h
  simp only [Function.isSpelled, privileged, Option.all_some, Option.all_none, Bool.and_true,
    Bool.and_eq_true]
  exact ⟨⟨h.1, isSpelled_guard hg hrole⟩, h.2⟩

theorem allSpelled_iff {ss : List Statement} :
    Statement.allSpelled ss = true ↔ ∀ s ∈ ss, s.isSpelled = true := by
  induction ss with
  | nil => simp [Statement.allSpelled]
  | cons s ss ih => simp [Statement.allSpelled, ih]

theorem allSpelled_hookBody (c : TokenConfig) : Statement.allSpelled (hookBody c) = true := by
  have hfixed : ∀ s ∈ [bypass, requireRunning, requireNotBlacklisted, requireAllowlisted, passOn],
      s.isSpelled = true := by
    decide
  have hguards : ∀ s ∈ [requireLimits, requireCooldown], s.isSpelled = true := by decide
  have hcondition : (Expression.binary .and (isNotZero "from") (isNotZero "to")).isSpelled = true := by
    decide
  rw [allSpelled_iff]
  intro s hs
  rcases mem_hookBody hs with hs | hs
  · exact hfixed s hs
  · obtain ⟨guards, rfl, hmem⟩ := mem_betweenHolders hs
    rw [Statement.isSpelled, hcondition, Bool.true_and, allSpelled_iff]
    intro t ht
    exact hguards t (by rcases hmem t ht with rfl | rfl <;> simp)

theorem Emits.isSpelled {f : Function} (h : Emits c f) : f.isSpelled = true := by
  have hminter : isWord minterRole = true := by decide
  have hpauser : isWord pauserRole = true := by decide
  have hadmin : isWord adminRole = true := by decide
  cases h with
  | decimals =>
    have hname : isWord "decimals" = true := by decide
    have hreturns : isWord (Abi.Ty.uint 8).name = true := by decide
    simp [Function.isSpelled, decimalsOverride, Statement.allSpelled, Statement.isSpelled,
      Expression.isSpelled, hname, hreturns]
  | mint _ hg => exact isSpelled_privileged hg hminter (by decide)
  | pausing _ hg hf =>
    simp only [pauseFunctions, List.mem_cons, List.not_mem_nil, or_false] at hf
    rcases hf with rfl | rfl
    · exact isSpelled_privileged hg hpauser (by decide)
    · exact isSpelled_privileged hg hpauser (by decide)
  | setAntiWhaleLimits _ hg => exact isSpelled_privileged hg hadmin (by decide)
  | setTradingCooldown _ hg => exact isSpelled_privileged hg hadmin (by decide)
  | setBlacklisted _ hg => exact isSpelled_privileged hg hadmin (by decide)
  | isBlacklisted => decide
  | setAllowlisted _ hg => exact isSpelled_privileged hg hadmin (by decide)
  | setAllowlistEnabled _ hg => exact isSpelled_privileged hg hadmin (by decide)
  | isAllowlisted => decide
  | hook =>
    have hbases : (if c.has .cap then [Base.erc20.name, Base.capped.name] else []).all isWord =
        true := by
      split <;> decide
    have hparams : ([⟨.address, "from"⟩, ⟨.address, "to"⟩, ⟨.uint 256, "value"⟩] :
        List Parameter).all Parameter.isSpelled = true := by
      decide
    simp only [Function.isSpelled, hookFunction, Option.all_some, Option.all_none, hbases, hparams,
      allSpelled_hookBody]
    decide

/-! ## Generated state -/

theorem Declares.isSpelled {b : StateBlock} (h : Declares c b) :
    ∀ ds ∈ b, ∀ d ∈ ds, d.isSpelled = true := by
  cases h with
  | role h => rcases mem_roles h with rfl | rfl <;> decide
  | antiWhale w =>
    simp only [antiWhaleState, List.forall_mem_singleton, List.forall_mem_cons]
    exact ⟨by decide, rfl, rfl⟩
  | antiBot =>
    simp only [antiBotState, List.forall_mem_singleton, List.forall_mem_cons]
    exact ⟨by decide, rfl, by decide⟩
  | blacklist => decide
  | allowlist => decide

/-! ## Generated constructors -/

theorem isSpelled_params (c : TokenConfig) : ∀ p ∈ params c, p.isSpelled = true := by
  have hfixed : ∀ p ∈ ([⟨.string, "name_"⟩, ⟨.string, "symbol_"⟩, ⟨.uint 256, "initialSupply"⟩,
      ⟨.uint 8, ""⟩] : List Parameter), p.isSpelled = true := by
    decide
  have hauthority : (⟨.address, "initialAuthority"⟩ : Parameter).isSpelled = true := by
    decide
  simp only [params, List.forall_mem_append]
  refine ⟨hfixed, fun p hp => ?_⟩
  rw [mem_ite_nil, List.mem_singleton] at hp
  rw [hp.2]
  exact hauthority

theorem isSpelled_statements (c : TokenConfig) : ∀ s ∈ statements c, s.isSpelled = true := by
  have hmint : (mintTo sender (.name "initialSupply")).isSpelled = true := by decide
  have hallow : (Statement.assign (.entry "_allowlisted" (.call "_msgSender" []))
      (.name "true")).isSpelled = true := by
    decide
  have hgrant : ∀ role ∈ [adminRole, minterRole, pauserRole], (grant role).isSpelled = true := by
    decide
  simp only [statements, List.cons_append, List.forall_mem_cons, List.forall_mem_append]
  refine ⟨hmint, fun s hs => ?_, fun s hs => ?_⟩
  · rw [mem_ite_nil, List.mem_map] at hs
    obtain ⟨-, role, hrole, rfl⟩ := hs
    rcases List.mem_cons.mp hrole with rfl | hrole
    · exact hgrant _ (by simp)
    · exact hgrant _ (by rcases mem_roles hrole with rfl | rfl <;> simp)
  · rw [mem_ite_nil, List.mem_singleton] at hs
    rw [hs.2]
    exact hallow

theorem spells_initializers (c : TokenConfig) : ∀ i ∈ initializers c,
    Spells i.render (i.base :: Expression.wordsAll i.args) := by
  have herc20 : isWord Base.erc20.name = true ∧
      Expression.allSpelled [.name "name_", .name "symbol_"] = true := by
    decide
  have haccess : ∀ access, ∀ i ∈ accessInitializer access,
      isWord i.base = true ∧ Expression.allSpelled i.args = true := by
    intro access
    cases access <;> decide
  have hcapped : isWord Base.capped.name = true := by decide
  simp only [initializers, List.cons_append, List.forall_mem_cons, List.forall_mem_append,
    List.forall_mem_map]
  refine ⟨Initializer.spells_render herc20.1 herc20.2, fun i hi => ?_, fun cap _ => ?_⟩
  · exact Initializer.spells_render (haccess c.accessControl i hi).1 (haccess c.accessControl i hi).2
  · exact Initializer.spells_render hcapped rfl

end Synthesis

end TokenLaunch
