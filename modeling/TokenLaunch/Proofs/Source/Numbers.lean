import TokenLaunch.Proofs.Source.Emitted
import TokenLaunch.Proofs.Source.Reading

/-!
# Numbers in a generated source

The numbers that a generated source shows where it reports decimals, calls a capped base and
declares limits: they are those of the configuration, each in its own place and in no other.
-/

namespace TokenLaunch

open Text SourceUnit

/-! ## Reading a contract -/

namespace Solidity

theorem flatMap_intercalate {α : Type} {g : String → List α} (h : g "" = [])
    (blocks : List (List String)) :
    ([""].intercalate blocks).flatMap g = blocks.flatMap (·.flatMap g) := by
  induction blocks with
  | nil => rfl
  | cons b blocks ih =>
    cases blocks with
    | nil => simp
    | cons b' blocks =>
      rw [List.intercalate_cons_cons, List.flatMap_append, List.flatMap_append, ih]
      simp [h]

theorem head?_importText (path : String) : (importText path).toList.head? = some 'i' := by
  unfold importText
  simp

theorem head?_headText (u : SourceUnit) : u.headText.toList.head? = some 'c' := by
  unfold headText
  simp

theorem head?_topLines {u : SourceUnit} {l : String} (h : l ∈ u.topLines) :
    l.toList.head? ≠ some ' ' := by
  simp only [topLines, List.mem_append, List.mem_cons, List.mem_map, List.not_mem_nil,
    or_false] at h
  rcases h with ((rfl | rfl | rfl) | ⟨path, -, rfl⟩) | (rfl | rfl)
  · simp
  · simp
  · simp
  · simp [head?_importText]
  · simp
  · simp [head?_headText]

/-- Only the lines of the sections are indented. -/
theorem Contract.flatMap_sourceLines {α : Type} (k : Contract) {g : String → List α}
    (h : ∀ l : String, l.toList.head? ≠ some ' ' → g l = []) :
    k.sourceLines.flatMap g = k.blocks.flatMap fun b => b.flatMap (g ∘ indentLine) := by
  have hempty : g "" = [] := h _ (by simp)
  have htop : k.toSourceUnit.topLines.flatMap g = [] :=
    List.flatMap_eq_nil_iff.mpr fun l hl => h l (head?_topLines hl)
  have hend : g "\x7d" = [] := h _ (by simp)
  rw [Contract.sourceLines, List.flatMap_append, List.flatMap_append, htop,
    flatMap_intercalate hempty, List.flatMap_map]
  simp [hempty, hend, List.flatMap_map, Function.comp_def]

theorem Function.head?_lines {f : Function} {l : String} (h : l ∈ f.lines) :
    ∃ c ∈ ['f', ' ', '\x7d'], l.toList.head? = some c := by
  simp only [Function.lines, List.cons_append, List.mem_cons, List.mem_append, Statement.deeper,
    List.mem_map, List.not_mem_nil, or_false] at h
  rcases h with rfl | ⟨l, -, rfl⟩ | rfl
  · unfold headLine
    exact ⟨'f', by simp, by simp⟩
  · exact ⟨' ', by simp, by simp⟩
  · exact ⟨'\x7d', by simp, rfl⟩

theorem head?_paramTexts {ps : List String} {l : String} (h : l ∈ paramTexts ps) :
    l.toList.head? = some ' ' := by
  induction ps with
  | nil => cases h
  | cons p ps ih =>
    cases ps with
    | nil =>
      rw [paramTexts, List.mem_singleton] at h
      simp [h]
    | cons q ps =>
      rw [paramTexts, List.mem_cons] at h
      rcases h with rfl | h
      · simp
      · exact ih h

theorem StateBlock.flatMap_lines {α : Type} {g : String → List α} (h : g "" = [])
    (b : StateBlock) :
    b.lines.flatMap g = b.flatMap fun ds => ds.flatMap (g ∘ Declaration.render) := by
  rw [StateBlock.lines, flatMap_intercalate h, List.flatMap_map]
  simp [List.flatMap_map, Function.comp_def]

/-- What is read on the lines of the state and on the line of the calls of bases is all that is
read. -/
theorem Contract.flatMap_after (k : Contract) {start : List Char} {stop x : Char}
    (hstart : start.head? = some x) (hx : x ∉ ['f', ' ', '\x7d', 'c']) :
    (k.blocks.flatMap fun b => b.flatMap fun l => after start stop l.toList) =
      (k.state.flatMap fun b => b.flatMap fun ds => ds.flatMap fun d =>
        after start stop d.render.toList) ++
      after start stop k.toSourceUnit.initializerText.toList := by
  have hnil : ∀ y ∈ ['f', ' ', '\x7d', 'c'], ∀ l : String, l.toList.head? = some y →
      after start stop l.toList = [] := by
    intro y hy l hl
    refine after_of_head?_ne hstart fun hhead => hx ?_
    rw [hl, Option.some.injEq] at hhead
    rwa [← hhead]
  have hempty : after start stop "".toList = [] := after_of_head?_ne hstart (by simp)
  have hstate : ∀ b : StateBlock, (b.lines.flatMap fun l => after start stop l.toList) =
      b.flatMap fun ds => ds.flatMap fun d => after start stop d.render.toList := fun b =>
    StateBlock.flatMap_lines hempty b
  have hfunctions : ((k.functions.map Function.lines).flatMap fun b =>
      b.flatMap fun l => after start stop l.toList) = [] := by
    simp only [List.flatMap_eq_nil_iff, List.mem_map]
    rintro _ ⟨f, -, rfl⟩ l hl
    obtain ⟨y, hy, hhead⟩ := Function.head?_lines hl
    exact hnil y (by simp only [List.mem_cons] at hy ⊢; tauto) l hhead
  have hparams : ((paramTexts k.toSourceUnit.params).flatMap fun l =>
      after start stop l.toList) = [] :=
    List.flatMap_eq_nil_iff.mpr fun l hl => hnil ' ' (by simp) l (head?_paramTexts hl)
  have hstatements : ((k.toSourceUnit.statements.map ("    " ++ ·)).flatMap fun l =>
      after start stop l.toList) = [] := by
    simp only [List.flatMap_eq_nil_iff, List.mem_map]
    rintro _ ⟨s, -, rfl⟩
    exact hnil ' ' (by simp) _ (by simp)
  have hopen := hnil 'c' (by simp) "constructor(" rfl
  have hclose := hnil '\x7d' (by simp) "\x7d" rfl
  have hconstructor : (k.toSourceUnit.constructorLines.flatMap fun l =>
      after start stop l.toList) = after start stop k.toSourceUnit.initializerText.toList := by
    simp only [constructorLines, List.cons_append, List.flatMap_cons, List.flatMap_append,
      List.flatMap_nil, hparams, hstatements, hopen, hclose, List.nil_append, List.append_nil]
  rw [Contract.blocks, List.flatMap_append, List.flatMap_cons, hfunctions, hconstructor,
    List.append_nil, List.flatMap_map]
  simp only [hstate]

end Solidity

namespace Synthesis

open Solidity

variable {c : TokenConfig}

/-! ## Declared words -/

/-- The words that a token declares, with their first values. -/
def words (c : TokenConfig) : List (String × Nat) :=
  c.antiWhale.toList.flatMap (fun w =>
      [("maxTransactionAmount", w.maxTransactionAmount.baseUnits),
        ("maxHolderLimit", w.maxHolderLimit.baseUnits)])
    ++ c.tradingCooldown.toList.map fun cooldown => ("tradingCooldown", cooldown)

theorem toList_wordStart (name : String) :
    (wordStart name).toList = "uint256 public ".toList ++ (name.toList ++ ' ' :: "= ".toList) := by
  unfold wordStart
  simp

theorem toList_render_wordVariable (name : String) (value : Nat) :
    (wordVariable name value).render.toList =
      (wordStart name).toList ++ ((decimal value).toList ++ [';']) := by
  have htype : Abi.Ty.name (.uint 256) = "uint256" := by decide
  rw [toList_wordStart]
  simp [wordVariable, Declaration.render, StateType.render, Expression.render, htype]

theorem wordStart_isPrefix {name name' : String} {rest : List Char} (h : ' ' ∉ name.toList)
    (h' : ' ' ∉ name'.toList)
    (hpre : (wordStart name).toList <+: (wordStart name').toList ++ rest) :
    name = name' := by
  rw [toList_wordStart, toList_wordStart, List.append_assoc, List.prefix_append_right_inj] at hpre
  obtain ⟨post, hpost⟩ := hpre
  simp only [List.append_assoc, List.cons_append] at hpost
  have hcut := congrArg (List.takeWhile (· ≠ ' ')) hpost
  rw [takeWhile_ne_append h, takeWhile_ne_append h'] at hcut
  exact String.toList_inj.mp hcut

/-- A word is read under its own name only. -/
theorem after_wordVariable {name name' : String} (h : ' ' ∉ name.toList) (h' : ' ' ∉ name'.toList)
    (value : Nat) : after (wordStart name).toList ';' (wordVariable name' value).render.toList =
      if name' = name then [decimal value] else [] := by
  rw [toList_render_wordVariable]
  split
  · rename_i heq
    rw [heq, after_append (notMem_decimal rfl value), String.ofList_toList]
  · rename_i hne
    rw [after, if_neg]
    rw [List.isPrefixOf_iff_prefix]
    exact fun hpre => hne (wordStart_isPrefix h h' hpre).symm

/-! ## State -/

/-- What is read on the lines of a block. -/
def blockReadings (start : List Char) (stop : Char) (b : StateBlock) : List String :=
  b.flatMap fun ds => ds.flatMap fun d => after start stop d.render.toList

theorem head?_enabledFlag (name : String) : (enabledFlag name).render.toList.head? = some 'b' := by
  simp [enabledFlag, Declaration.render, StateType.render, Abi.Ty.name]

theorem head?_privateMapping (name : String) (value : Abi.Ty) :
    (privateMapping name value).render.toList.head? = some 'm' := by
  simp [privateMapping, mappingOf, Declaration.render, StateType.render]

theorem head?_event (name : String) (params : List (Parameter × Bool)) :
    (Declaration.event name params).render.toList.head? = some 'e' := by
  simp [Declaration.render]

variable {start : List Char} {stop x : Char}

/-- Only words are read in the state where flags, mappings and events begin otherwise. -/
theorem flatMap_state (hstart : start.head? = some x) (hx : x ∉ ['b', 'm', 'e']) :
    (state c).flatMap (blockReadings start stop) =
      c.antiWhale.toList.flatMap (fun w =>
        after start stop
            (wordVariable "maxTransactionAmount" w.maxTransactionAmount.baseUnits).render.toList
          ++ after start stop
            (wordVariable "maxHolderLimit" w.maxHolderLimit.baseUnits).render.toList)
        ++ c.tradingCooldown.toList.flatMap (fun cooldown =>
          after start stop (wordVariable "tradingCooldown" cooldown).render.toList) := by
  have hnil : ∀ y ∈ ['b', 'm', 'e'], ∀ l : String, l.toList.head? = some y →
      after start stop l.toList = [] := by
    intro y hy l hl
    refine after_of_head?_ne hstart fun hhead => hx ?_
    rw [hl, Option.some.injEq] at hhead
    rwa [← hhead]
  have hflag : ∀ name, after start stop (enabledFlag name).render.toList = [] := fun name =>
    hnil 'b' (by simp) _ (head?_enabledFlag name)
  have hmapping : ∀ name value, after start stop (privateMapping name value).render.toList = [] :=
    fun name value => hnil 'm' (by simp) _ (head?_privateMapping name value)
  have hevent : ∀ name params,
      after start stop (Declaration.event name params).render.toList = [] :=
    fun name params => hnil 'e' (by simp) _ (head?_event name params)
  have hrole : ∀ role, blockReadings start stop (roleConstant role) = [] := by
    intro role
    have hhead : (Declaration.variable (.plain (.fixedBytes 32)) true true role
        (some (.call "keccak256" [.text role]))).render.toList.head? = some 'b' := by
      simp [Declaration.render, StateType.render, Abi.Ty.name]
    simp [blockReadings, roleConstant, hnil 'b' (by simp) _ hhead]
  have hallowed : after start stop (Declaration.variable (.plain .bool) true false
      "allowlistEnabled" (some (.name "true"))).render.toList = [] :=
    hnil 'b' (by simp) _ (by simp [Declaration.render, StateType.render, Abi.Ty.name])
  have hblacklist : blockReadings start stop blacklistState = [] := by
    simp [blockReadings, blacklistState, hmapping, hevent]
  have hallowlist : blockReadings start stop allowlistState = [] := by
    simp [blockReadings, allowlistState, hmapping, hevent, hallowed]
  have hantiWhale : ∀ w, blockReadings start stop (antiWhaleState w) =
      after start stop
          (wordVariable "maxTransactionAmount" w.maxTransactionAmount.baseUnits).render.toList
        ++ after start stop
          (wordVariable "maxHolderLimit" w.maxHolderLimit.baseUnits).render.toList := by
    intro w
    simp [blockReadings, antiWhaleState, hflag]
  have hantiBot : ∀ n, blockReadings start stop (antiBotState n) =
      after start stop (wordVariable "tradingCooldown" n).render.toList := by
    intro n
    simp [blockReadings, antiBotState, hflag, hmapping]
  have hroles : ((roles c).map roleConstant).flatMap (blockReadings start stop) = [] := by
    simp [hrole]
  have hif : ∀ (p : Prop) [Decidable p] (b : StateBlock), blockReadings start stop b = [] →
      (if p then [b] else []).flatMap (blockReadings start stop) = [] := by
    intro p _ b hb
    split <;> simp [hb]
  rw [state, List.flatMap_append, List.flatMap_append, List.flatMap_append, List.flatMap_append,
    hroles, hif _ _ hblacklist, hif _ _ hallowlist, List.flatMap_map, List.flatMap_map]
  simp only [hantiWhale, hantiBot, List.nil_append, List.append_nil]

theorem flatMap_behind {start : String} (h : IsContractName c.contractName)
    (hstart : start.toList.head? = some x)
    (hx : x ∉ ['f', ' ', '\x7d', 'c', 'b', 'm', 'e']) :
    (pieces c.source).flatMap (behind start stop) =
      (state c).flatMap (blockReadings start.toList stop)
        ++ after start.toList stop c.sourceUnit.initializerText.toList := by
  have hne : start ≠ "" := by
    rintro rfl
    cases hstart
  have hx : x ∉ ['f', ' ', '\x7d', 'c'] := by
    simp only [List.mem_cons] at hx ⊢
    tauto
  have hindent : behind start stop ∘ indentLine = fun l => after start.toList stop l.toList :=
    funext fun l => behind_indentLine hne
  rw [pieces_source h, c.contract.flatMap_sourceLines fun l hl => behind_of_head?_ne hl, hindent,
    c.contract.flatMap_after hstart hx]
  rfl

/-- Every declared word is read with its first value, and under no other name. -/
theorem firstValues_source (h : IsContractName c.contractName) {name : String}
    (hname : ' ' ∉ name.toList) :
    firstValues name c.source = ((words c).filter (·.1 = name)).map (decimal ·.2) := by
  have hhead : (wordStart name).toList.head? = some 'u' := by simp [toList_wordStart]
  have hinit : after (wordStart name).toList ';' c.sourceUnit.initializerText.toList = [] := by
    refine after_of_head?_ne hhead ?_
    simp [initializerText]
  have hfixed : ∀ n ∈ ["maxTransactionAmount", "maxHolderLimit", "tradingCooldown"],
      ' ' ∉ n.toList := by
    decide
  simp only [List.forall_mem_cons] at hfixed
  obtain ⟨htransaction, hholder, hcooldown, -⟩ := hfixed
  rw [firstValues, flatMap_behind h hhead (by decide), flatMap_state hhead (by decide), hinit,
    List.append_nil]
  simp only [after_wordVariable hname htransaction, after_wordVariable hname hholder,
    after_wordVariable hname hcooldown]
  have hcons : ∀ (n : String) (v : Nat) (ws : List (String × Nat)),
      (((n, v) :: ws).filter (·.1 = name)).map (decimal ·.2) =
        (if n = name then [decimal v] else []) ++ (ws.filter (·.1 = name)).map (decimal ·.2) := by
    intro n v ws
    by_cases hn : n = name <;> simp [hn]
  rw [words]
  generalize c.antiWhale = w
  generalize c.tradingCooldown = cooldown
  cases w <;> cases cooldown <;> simp [hcons]

/-! ## Calls of bases -/

/-- The calls of bases but for the capped one. -/
def fixedCalls (access : AccessControl) : String :=
  String.join ((⟨Base.erc20.name, [.name "name_", .name "symbol_"]⟩
    :: accessInitializer access : List Initializer).map (" " ++ ·.render))

/-- The call of the capped base. -/
def cappedCall (cap : Nat) : String := "ERC20Capped(" ++ decimal cap ++ ")"

theorem initializers_eq (c : TokenConfig) : c.sourceUnit.initializers =
    (⟨Base.erc20.name, [.name "name_", .name "symbol_"]⟩
      :: accessInitializer c.accessControl : List Initializer).map Initializer.render
      ++ c.maxSupply.toList.map (cappedCall ·.baseUnits) := by
  simp only [TokenConfig.sourceUnit, Contract.toSourceUnit, TokenConfig.contract, initializers,
    List.map_append, List.map_map]
  rfl

theorem initializerText_eq (c : TokenConfig) : c.sourceUnit.initializerText =
    ")" ++ (fixedCalls c.accessControl
      ++ (String.join (c.maxSupply.toList.map (" " ++ cappedCall ·.baseUnits)) ++ " \x7b")) := by
  rw [initializerText, initializers_eq, List.map_append, String.join_append, List.map_map,
    List.map_map, String.append_assoc, String.append_assoc]
  rfl

theorem toList_cappedCall (cap : Nat) : (cappedCall cap).toList =
    'E' :: "RC20Capped(".toList ++ ((decimal cap).toList ++ [')']) := by
  unfold cappedCall
  simp

theorem between_fixedCalls (access : AccessControl) :
    between "ERC20Capped(".toList ')' (fixedCalls access).toList = [] := by
  cases access <;> decide

theorem notMem_fixedCalls (access : AccessControl) : '\x7b' ∉ (fixedCalls access).toList := by
  cases access <;> decide

theorem baseCalls_source (h : IsContractName c.contractName) :
    (pieces c.source).flatMap baseCalls = [fixedCalls c.accessControl
      ++ (String.join (c.maxSupply.toList.map (" " ++ cappedCall ·.baseUnits)) ++ " ")] := by
  have hhead : ")".toList.head? = some ')' := rfl
  have hnil : ∀ n v, after ")".toList '\x7b' (wordVariable n v).render.toList = [] := by
    intro n v
    refine after_of_head?_ne hhead ?_
    simp [toList_render_wordVariable, toList_wordStart]
  have hstate : (state c).flatMap (blockReadings ")".toList '\x7b') = [] := by
    rw [flatMap_state hhead (by decide)]
    simp only [hnil, List.append_nil]
    simp
  have hcapped : '\x7b' ∉ (String.join (c.maxSupply.toList.map
      (" " ++ cappedCall ·.baseUnits))).toList := by
    cases c.maxSupply with
    | none => simp
    | some cap => simp [toList_cappedCall, notMem_decimal]
  have hchars : c.sourceUnit.initializerText.toList = ")".toList ++ ((fixedCalls c.accessControl
      ++ (String.join (c.maxSupply.toList.map (" " ++ cappedCall ·.baseUnits)) ++ " ")).toList
        ++ ['\x7b']) := by
    rw [initializerText_eq]
    simp
  have hbase : baseCalls = behind ")" '\x7b' := rfl
  rw [hbase, flatMap_behind h hhead (by decide), hstate, List.nil_append, hchars, after_append,
    String.ofList_toList]
  simp only [String.toList_append, List.mem_append, not_or]
  exact ⟨notMem_fixedCalls _, hcapped, by decide⟩

/-- The call of the capped base, where there is one, is read with its cap. -/
theorem baseArguments_source (h : IsContractName c.contractName) :
    baseArguments "ERC20Capped" c.source = c.maxSupply.toList.map (decimal ·.baseUnits) := by
  have hlead : ("ERC20Capped" ++ "(").toList = 'E' :: "RC20Capped(".toList := by decide
  have hfixed :
      between ('E' :: "RC20Capped(".toList) ')' (fixedCalls c.accessControl).toList = [] :=
    between_fixedCalls c.accessControl
  have hblank : ' ' ∉ 'E' :: "RC20Capped(".toList := by decide
  have hE : 'E' ∉ "RC20Capped(".toList := by decide
  rw [baseArguments, baseCalls_source h, List.flatMap_singleton, hlead]
  cases c.maxSupply with
  | none =>
    have hchars : (fixedCalls c.accessControl ++ (String.join [] ++ " ")).toList =
        (fixedCalls c.accessControl).toList ++ ' ' :: [] := by
      simp
    exact (congrArg _ hchars).trans (between_append_cons (List.cons_ne_nil _ _) hblank hfixed)
  | some cap =>
    have hchars : (fixedCalls c.accessControl
        ++ (String.join [" " ++ cappedCall cap.baseUnits] ++ " ")).toList =
        (fixedCalls c.accessControl).toList ++ ' ' :: ('E' :: "RC20Capped(".toList
          ++ ((decimal cap.baseUnits).toList ++ ')' :: [' '])) := by
      simp [toList_cappedCall]
    have hread := between_lead hE (notMem_decimal rfl cap.baseUnits)
      (notMem_decimal rfl cap.baseUnits) (by decide : 'E' ∉ [')', ' '])
    rw [String.ofList_toList] at hread
    refine (congrArg _ hchars).trans ?_
    rw [between_append_cons (List.cons_ne_nil _ _) hblank hfixed]
    exact hread

end Synthesis

end TokenLaunch
