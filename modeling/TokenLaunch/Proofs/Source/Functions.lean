import Mathlib.Data.List.Basic
import TokenLaunch.Proofs.Source.Decimals

/-!
# Functions in a generated source

The heads of the functions that a source shows, the names in them, and the lines below them.  The
functions of a generated contract have different names, and each stands in the source once.
-/

namespace TokenLaunch

open Text SourceUnit Solidity

namespace Text

/-- The names of the functions that a source shows. -/
def functionNames (s : String) : List String := (pieces s).flatMap (behind "function " '(')

/-- The lines of a source that begin a function of this name. -/
def headsOf (name s : String) : List String :=
  (pieces s).filter fun line => name ∈ behind "function " '(' line

/-- The lines between the first line `head` and the brace that closes its block. -/
def linesBelow (head : String) : List String → List String
  | [] => []
  | l :: ls => if l = head then ls.takeWhile (· ≠ "    \x7d") else linesBelow head ls

theorem linesBelow_append {head : String} {ls rest : List String} (h : head ∉ ls) :
    linesBelow head (ls ++ rest) = linesBelow head rest := by
  induction ls with
  | nil => rfl
  | cons l ls ih =>
    simp only [List.mem_cons, not_or] at h
    rw [List.cons_append, linesBelow, if_neg (Ne.symm h.1), ih h.2]

theorem filter_eq_flatMap {α : Type} {p : α → Bool} (xs : List α) :
    xs.filter p = xs.flatMap fun x => if p x then [x] else [] := by
  induction xs with
  | nil => rfl
  | cons x xs ih => cases h : p x <;> simp [h, ih]

end Text

namespace Solidity

/-- How the line of a head begins, and no other line of a generated source. -/
def headStart : List Char := "    f".toList

theorem not_headStart_of_head? {l : String} (h : l.toList.head? ≠ some ' ') :
    ¬ headStart <+: l.toList := by
  rintro ⟨rest, hrest⟩
  exact h (by rw [← hrest]; rfl)

theorem headStart_indentLine_iff {l : String} :
    headStart <+: (indentLine l).toList ↔ l.toList.head? = some 'f' := by
  by_cases hl : l = ""
  · subst hl
    exact iff_of_false (by decide) (by decide)
  · have hstart : headStart = "    ".toList ++ ['f'] := rfl
    rw [toList_indentLine hl, hstart, List.prefix_append_right_inj]
    cases l.toList with
    | nil => exact iff_of_false (by decide) (by decide)
    | cons c cs => simp [eq_comm]

theorem flatMap_indentLine_eq_nil {α : Type} {g : String → List α}
    (h : ∀ l : String, ¬ headStart <+: l.toList → g l = []) :
    ∀ l : String, l.toList.head? ≠ some 'f' → (g ∘ indentLine) l = [] := fun _ hl =>
  h _ fun hstart => hl (headStart_indentLine_iff.mp hstart)

theorem Function.head?_headLine (f : Function) : f.headLine.toList.head? = some 'f' := by
  unfold Function.headLine
  simp

/-- Of the lines of a function, its head alone begins so. -/
theorem Function.flatMap_lines {α : Type} {g : String → List α} (f : Function)
    (h : ∀ l : String, l.toList.head? ≠ some 'f' → g l = []) :
    f.lines.flatMap g = g f.headLine := by
  have hbody : ((Statement.deeper (Statement.bodyLines f.body))).flatMap g = [] := by
    simp only [List.flatMap_eq_nil_iff, Statement.deeper, List.forall_mem_map]
    exact fun l _ => h _ (by simp)
  have hclose : g "\x7d" = [] := h _ (by decide)
  simp [Function.lines, hbody, hclose]

theorem head?_constructorLines {u : SourceUnit} {l : String} (h : l ∈ u.constructorLines) :
    l.toList.head? ≠ some 'f' := by
  simp only [constructorLines, List.cons_append, List.mem_cons, List.mem_append, List.mem_map,
    List.not_mem_nil, or_false] at h
  rcases h with rfl | ((h | rfl) | ⟨s, -, rfl⟩) | rfl
  · decide
  · rw [head?_paramTexts h]
    decide
  · simp [initializerText]
  · simp
  · decide

end Solidity

namespace Synthesis

variable {c : TokenConfig} {α : Type}

theorem Declares.head?_lines {b : StateBlock} (h : Declares c b) :
    ∀ l ∈ b.lines, l.toList.head? ≠ some 'f' := by
  refine forall_mem_intercalate (by simp) fun ls hls l hl => ?_
  obtain ⟨ds, hds, rfl⟩ := List.mem_map.mp hls
  obtain ⟨d, hd, rfl⟩ := List.mem_map.mp hl
  obtain ⟨y, hy, heq⟩ := h.head?_render ds hds d hd
  rw [heq]
  rintro ⟨⟩
  simp at hy

/-- The blocks of a generated contract. -/
theorem blocks_contract (c : TokenConfig) : c.contract.blocks = (state c).map StateBlock.lines
    ++ c.contract.toSourceUnit.constructorLines :: (functions c).map Function.lines := rfl

/-- What is read on the heads of functions is all that is read. -/
theorem flatMap_heads {g : String → List α} (hname : IsContractName c.contractName)
    (h : ∀ l : String, ¬ headStart <+: l.toList → g l = []) :
    (pieces c.source).flatMap g = (functions c).flatMap fun f => g (indentLine f.headLine) := by
  have hindent := flatMap_indentLine_eq_nil h
  have hstate : (((state c).map StateBlock.lines).flatMap fun b => b.flatMap (g ∘ indentLine)) =
      [] := by
    simp only [List.flatMap_eq_nil_iff, List.forall_mem_map]
    exact fun b hb l hl => hindent l ((mem_state_iff.mp hb).head?_lines l hl)
  have hconstructor : c.contract.toSourceUnit.constructorLines.flatMap (g ∘ indentLine) = [] :=
    List.flatMap_eq_nil_iff.mpr fun l hl => hindent l (head?_constructorLines hl)
  have hfunctions : (((functions c).map Function.lines).flatMap fun b =>
      b.flatMap (g ∘ indentLine)) = (functions c).flatMap fun f => g (indentLine f.headLine) := by
    have hlines : ∀ f : Function, f.lines.flatMap (g ∘ indentLine) = g (indentLine f.headLine) :=
      fun f => f.flatMap_lines hindent
    simp only [List.flatMap_map, hlines]
  rw [pieces_source hname,
    Contract.flatMap_sourceLines _ fun l hl => h l (not_headStart_of_head? hl),
    blocks_contract, List.flatMap_append, List.flatMap_cons, hstate, hconstructor, hfunctions,
    List.nil_append, List.nil_append]

/-! ## Names -/

/-- Every name that a function of a token may have, in the order in which they are emitted. -/
def emittedNames : List String :=
  ["decimals", "mint", "pause", "unpause", "setAntiWhaleLimits", "setTradingCooldown",
    "setBlacklisted", "isBlacklisted", "setAllowlisted", "setAllowlistEnabled", "isAllowlisted",
    "_update"]

theorem names_toList_map {access : AccessControl} {role name : String}
    {function : Guard → Function} (h : ∀ g, (function g).name = name) :
    ((guard access role).toList.map function).map Function.name =
      if access ≠ .none then [name] else [] := by
  cases access <;> simp [guard, h]

theorem names_pausing (c : TokenConfig) : (pausing c).map Function.name =
    if c.has .pause ∧ c.accessControl ≠ .none then ["pause", "unpause"] else [] := by
  unfold pausing
  generalize c.accessControl = access
  cases access <;> split_ifs <;> simp_all [guard, pauseFunctions, privileged]

theorem names_securityFunctions (c : TokenConfig) : (securityFunctions c).map Function.name =
    (if c.antiWhale.isSome ∧ c.accessControl ≠ .none then ["setAntiWhaleLimits"] else [])
      ++ (if c.tradingCooldown.isSome ∧ c.accessControl ≠ .none then ["setTradingCooldown"] else [])
      ++ (if c.hasSecurity .blacklist then
            (if c.accessControl ≠ .none then ["setBlacklisted"] else []) ++ ["isBlacklisted"]
          else [])
      ++ (if c.hasSecurity .allowlist then
            (if c.accessControl ≠ .none then ["setAllowlisted"] else [])
              ++ (if c.accessControl ≠ .none then ["setAllowlistEnabled"] else [])
              ++ ["isAllowlisted"]
          else []) := by
  have hadmin (function : Guard → Function) (name : String) (h : ∀ g, (function g).name = name) :
      ((guard c.accessControl adminRole).toList.map function).map Function.name =
        if c.accessControl ≠ .none then [name] else [] := names_toList_map h
  have hlimits := hadmin setAntiWhaleLimits "setAntiWhaleLimits" fun _ => rfl
  have hcooldown := hadmin setTradingCooldown "setTradingCooldown" fun _ => rfl
  have hblacklist := hadmin setBlacklisted "setBlacklisted" fun _ => rfl
  have hallowlist := hadmin setAllowlisted "setAllowlisted" fun _ => rfl
  have henabled := hadmin setAllowlistEnabled "setAllowlistEnabled" fun _ => rfl
  simp only [securityFunctions, List.map_append, apply_ite (List.map Function.name), hlimits,
    hcooldown, hblacklist, hallowlist, henabled, ite_and, List.map_nil]
  rfl

/-- The names of the functions of a token, each where it is emitted. -/
theorem names_functions (c : TokenConfig) : (functions c).map Function.name =
    (if c.decimals ≠ 18 then ["decimals"] else [])
      ++ (if c.has .mint ∧ c.accessControl ≠ .none then ["mint"] else [])
      ++ (if c.has .pause ∧ c.accessControl ≠ .none then ["pause", "unpause"] else [])
      ++ (securityFunctions c).map Function.name
      ++ (if c.isGuarded || c.has .pause || c.has .cap then ["_update"] else []) := by
  have hdecimals : (decimalsFunction c).map Function.name =
      if c.decimals ≠ 18 then ["decimals"] else [] := by
    unfold decimalsFunction
    split_ifs <;> simp_all
  have hmint : (mintFunctions c).map Function.name =
      if c.has .mint ∧ c.accessControl ≠ .none then ["mint"] else [] := by
    have hminter : ((guard c.accessControl minterRole).toList.map mintFunction).map Function.name =
        if c.accessControl ≠ .none then ["mint"] else [] := names_toList_map fun _ => rfl
    rw [mintFunctions, apply_ite (List.map _), hminter, ite_and]
    rfl
  have hhook : (hook c).map Function.name =
      if c.isGuarded || c.has .pause || c.has .cap then ["_update"] else [] := by
    unfold hook
    split <;> rfl
  rw [functions, List.map_append, List.map_append, List.map_append, List.map_append, hdecimals,
    hmint, names_pausing, hhook]

/-- Names are emitted in one order, so that none of them is repeated. -/
theorem names_functions_sublist (c : TokenConfig) :
    ((functions c).map Function.name).Sublist emittedNames := by
  have hite {p : Prop} [Decidable p] (xs : List String) : (if p then xs else []).Sublist xs :=
    ite_sublist (List.Sublist.refl xs)
  have hblacklists := ite_sublist (p := c.hasSecurity .blacklist)
    ((hite (p := c.accessControl ≠ .none) ["setBlacklisted"]).append
      (List.Sublist.refl ["isBlacklisted"]))
  have hallowlists := ite_sublist (p := c.hasSecurity .allowlist)
    (((hite (p := c.accessControl ≠ .none) ["setAllowlisted"]).append
      (hite (p := c.accessControl ≠ .none) ["setAllowlistEnabled"])).append
        (List.Sublist.refl ["isAllowlisted"]))
  rw [names_functions, names_securityFunctions]
  exact ((((hite ["decimals"]).append (hite ["mint"])).append (hite ["pause", "unpause"])).append
    ((((hite ["setAntiWhaleLimits"]).append (hite ["setTradingCooldown"])).append
      hblacklists).append hallowlists)).append (hite ["_update"])

theorem nodup_functions (c : TokenConfig) : ((functions c).map Function.name).Nodup := by
  have hnodup : emittedNames.Nodup := by decide
  exact hnodup.sublist (names_functions_sublist c)

theorem notMem_name {f : Function} {x : Char} (hf : f ∈ functions c)
    (hx : ∀ name ∈ emittedNames, x ∉ name.toList) : x ∉ f.name.toList :=
  hx _ ((names_functions_sublist c).subset (List.mem_map_of_mem hf))

/-- Only a head shows the name of a function. -/
theorem behind_function_eq_nil (l : String) (hl : ¬ headStart <+: l.toList) :
    behind "function " '(' l = [] := by
  have hblanks : headStart <+: "    ".toList ++ "function ".toList := by decide
  rw [behind, after, if_neg]
  rw [List.isPrefixOf_iff_prefix]
  exact fun hpre => hl (hblanks.trans hpre)

theorem behind_function_headLine {f : Function} (hf : f ∈ functions c) :
    behind "function " '(' (indentLine f.headLine) = [f.name] := by
  have hopen : ∀ name ∈ emittedNames, '(' ∉ name.toList := by decide
  have hchars : ∃ rest,
      f.headLine.toList = "function ".toList ++ (f.name.toList ++ '(' :: rest) := by
    unfold Function.headLine
    simp
  obtain ⟨rest, hrest⟩ := hchars
  rw [behind_indentLine (by decide), hrest, after_append (notMem_name hf hopen),
    String.ofList_toList]

/-- The functions that a source shows are those of its contract. -/
theorem functionNames_source (hname : IsContractName c.contractName) :
    functionNames c.source = (functions c).map Function.name := by
  rw [functionNames, flatMap_heads hname behind_function_eq_nil, List.map_eq_flatMap]
  exact List.flatMap_congr fun f hf => behind_function_headLine hf

/-- The lines that begin functions of a name are the heads of the functions that have it. -/
theorem headsOf_source (hname : IsContractName c.contractName) (name : String) :
    headsOf name c.source =
      ((functions c).filter (·.name = name)).map fun f => indentLine f.headLine := by
  have hheads : ∀ l : String, ¬ headStart <+: l.toList →
      (if name ∈ behind "function " '(' l then [l] else []) = [] := by
    intro l hl
    rw [behind_function_eq_nil l hl, if_neg List.not_mem_nil]
  rw [headsOf, filter_eq_flatMap, filter_eq_flatMap, List.map_flatMap]
  simp only [decide_eq_true_eq]
  rw [flatMap_heads hname hheads]
  refine List.flatMap_congr fun f hf => ?_
  rw [behind_function_headLine hf]
  by_cases h : f.name = name
  · rw [if_pos h, if_pos (List.mem_singleton.mpr h.symm)]
    rfl
  · rw [if_neg h, if_neg fun hmem => h (List.mem_singleton.mp hmem).symm]
    rfl

/-! ## Bodies -/

/-- What stands below a line that no earlier block has. -/
theorem linesBelow_intercalate {pre post : List (List String)} {b rest : List String}
    {head : String} (hempty : head ≠ "") (h : ∀ b ∈ pre, head ∉ b) :
    linesBelow head ([""].intercalate (pre ++ (head :: b ++ ["    \x7d"]) :: post) ++ rest) =
      b.takeWhile (· ≠ "    \x7d") := by
  have hstop (after : List String) : (b ++ "    \x7d" :: after).takeWhile (· ≠ "    \x7d") =
      b.takeWhile (· ≠ "    \x7d") := by
    induction b with
    | nil => simp
    | cons l b ih => simp only [List.cons_append, List.takeWhile_cons, ih]
  induction pre with
  | nil =>
    cases post with
    | nil => simpa [linesBelow] using hstop rest
    | cons p post => simpa [linesBelow] using hstop _
  | cons p pre ih =>
    have hp := h p List.mem_cons_self
    have ih := ih fun x hx => h x (List.mem_cons_of_mem _ hx)
    have hne : pre ++ (head :: b ++ ["    \x7d"]) :: post ≠ [] := by simp
    obtain ⟨q, qs, hqs⟩ := List.exists_cons_of_ne_nil hne
    rw [List.cons_append, hqs, List.intercalate_cons_cons, List.append_assoc, ← hqs,
      linesBelow_append, ih]
    rw [List.mem_append, List.mem_singleton, not_or]
    exact ⟨hp, hempty⟩

theorem map_indentLine_lines (f : Function) : f.lines.map indentLine =
    indentLine f.headLine :: (Statement.deeper (Statement.bodyLines f.body)).map indentLine
      ++ ["    \x7d"] := by
  have hclose : indentLine "\x7d" = "    \x7d" := by decide
  simp [Function.lines, hclose]

/-- A line of a body stands deeper than the brace that closes it. -/
theorem takeWhile_deeper (ls : List String) :
    ((Statement.deeper ls).map indentLine).takeWhile (· ≠ "    \x7d") =
      (Statement.deeper ls).map indentLine := by
  have hdeeper : ∀ l : String, indentLine ("    " ++ l) ≠ "    \x7d" := by
    intro l heq
    have hne : "    " ++ l ≠ "" := by simp
    have hchars := congrArg String.toList heq
    simp [toList_indentLine hne] at hchars
  induction ls with
  | nil => rfl
  | cons l ls ih =>
    simp only [Statement.deeper, List.map_cons] at ih ⊢
    rw [List.takeWhile_cons, ih, if_pos (decide_eq_true (hdeeper l))]

/-- The head of a function stands in no block that does not show its name. -/
theorem head_notMem_map {f : Function} {b : List String} (hf : f ∈ functions c)
    (h : f.name ∉ b.flatMap (behind "function " '(' ∘ indentLine)) :
    indentLine f.headLine ∉ b.map indentLine := by
  rw [List.mem_map]
  rintro ⟨l, hl, heq⟩
  refine h (List.mem_flatMap.mpr ⟨l, hl, ?_⟩)
  rw [Function.comp_apply, heq, behind_function_headLine hf]
  exact List.mem_singleton_self _

theorem head_notMem_of_head?_ne {f : Function} {b : List String} (hf : f ∈ functions c)
    (h : ∀ l ∈ b, l.toList.head? ≠ some 'f') : indentLine f.headLine ∉ b.map indentLine := by
  refine head_notMem_map hf ?_
  rw [List.flatMap_eq_nil_iff.mpr fun l hl =>
    flatMap_indentLine_eq_nil behind_function_eq_nil l (h l hl)]
  exact List.not_mem_nil

theorem head_notMem_lines {f g : Function} (hf : f ∈ functions c) (hg : g ∈ functions c)
    (hne : f.name ≠ g.name) : indentLine f.headLine ∉ g.lines.map indentLine := by
  refine head_notMem_map hf ?_
  rw [g.flatMap_lines (flatMap_indentLine_eq_nil behind_function_eq_nil), Function.comp_apply,
    behind_function_headLine hg, List.mem_singleton]
  exact hne

theorem head_notMem_topLines (f : Function) (u : SourceUnit) :
    indentLine f.headLine ∉ u.topLines := fun hmem =>
  not_headStart_of_head? (head?_topLines hmem) (headStart_indentLine_iff.mpr f.head?_headLine)

theorem indentLine_headLine_ne_empty (f : Function) : indentLine f.headLine ≠ "" := by
  intro heq
  have hstart := headStart_indentLine_iff.mpr f.head?_headLine
  rw [heq] at hstart
  exact absurd hstart (by decide)

/-- Below the head of a function stand the lines of its body, up to the brace that closes it. -/
theorem linesBelow_source {f : Function} (hname : IsContractName c.contractName)
    (hf : f ∈ functions c) :
    linesBelow (indentLine f.headLine) (pieces c.source) =
      (Statement.deeper (Statement.bodyLines f.body)).map indentLine := by
  obtain ⟨before, after, hsplit⟩ := List.append_of_mem hf
  have hnodup := nodup_functions c
  rw [hsplit, List.map_append, List.map_cons, List.nodup_append] at hnodup
  have hstate : ∀ b ∈ state c, indentLine f.headLine ∉ b.lines.map indentLine := fun b hb =>
    head_notMem_of_head?_ne hf (mem_state_iff.mp hb).head?_lines
  have hconstructor : indentLine f.headLine ∉
      c.contract.toSourceUnit.constructorLines.map indentLine :=
    head_notMem_of_head?_ne hf fun _ => head?_constructorLines
  -- names are not repeated, so no function in front shows the name of this one
  have hbefore : ∀ g ∈ before, indentLine f.headLine ∉ g.lines.map indentLine := by
    intro g hg
    have hmem : g ∈ functions c := by
      rw [hsplit]
      exact List.mem_append_left _ hg
    refine head_notMem_lines hf hmem fun heq => ?_
    exact hnodup.2.2 _ (List.mem_map_of_mem hg) _ List.mem_cons_self heq.symm
  have hblocks : c.contract.blocks.map (·.map indentLine) =
      ((state c).map (·.lines.map indentLine)
        ++ [c.contract.toSourceUnit.constructorLines.map indentLine]
        ++ before.map (·.lines.map indentLine))
        ++ (indentLine f.headLine :: (Statement.deeper (Statement.bodyLines f.body)).map indentLine
          ++ ["    \x7d"]) :: after.map (·.lines.map indentLine) := by
    rw [blocks_contract, hsplit, ← map_indentLine_lines]
    simp [Function.comp_def]
  rw [pieces_source hname, Contract.sourceLines, List.append_assoc,
    linesBelow_append (head_notMem_topLines f _), hblocks,
    linesBelow_intercalate (indentLine_headLine_ne_empty f), takeWhile_deeper]
  simp only [List.forall_mem_append, List.forall_mem_map, List.forall_mem_singleton]
  exact ⟨⟨hstate, hconstructor⟩, hbefore⟩

end Synthesis

end TokenLaunch
