import TokenLaunch.Proofs.Source.Numbers

/-!
# Decimals in a generated source

The decimals that a generated source reports: they are those of the configuration, whether the
source overrides the decimals of its base or not.
-/

namespace TokenLaunch.Synthesis

open Text SourceUnit Solidity

variable {c : TokenConfig}

theorem overrideLine_mem_map {b : List String} (h : overrideHead ∉ b) :
    overrideLine ∉ b.map indentLine := by
  rw [List.mem_map]
  rintro ⟨l, hl, heq⟩
  have hchars := congrArg String.toList heq
  by_cases hempty : l = ""
  · subst hempty
    simp [indentLine, overrideLine] at hchars
  · rw [toList_indentLine hempty, overrideLine, String.toList_append,
      List.append_cancel_left_eq] at hchars
    exact h (String.toList_inj.mp hchars ▸ hl)

/-- Another function has another head. -/
theorem headLine_ne_overrideHead {f : Function} (hname : f.name ≠ "decimals")
    (hopen : '(' ∉ f.name.toList) : f.headLine ≠ overrideHead := by
  intro heq
  have hchars : f.headLine.toList.takeWhile (· ≠ '(') = "function ".toList ++ f.name.toList := by
    have hfunction : '(' ∉ "function ".toList ++ f.name.toList := by
      rw [List.mem_append]
      exact fun h => h.elim (by decide) hopen
    unfold Function.headLine
    simp only [String.toList_append, List.append_assoc]
    rw [← List.append_assoc]
    exact takeWhile_ne_append hfunction
  have hdecimals : overrideHead.toList.takeWhile (· ≠ '(') =
      "function ".toList ++ "decimals".toList := by
    decide
  rw [heq, hdecimals, List.append_cancel_left_eq] at hchars
  exact hname (String.toList_inj.mp hchars).symm

theorem overrideHead_notMem {f : Function} (hname : f.name ≠ "decimals")
    (hopen : '(' ∉ f.name.toList) : overrideHead ∉ f.lines := by
  have hhead : overrideHead.toList.head? = some 'f' := by decide
  intro h
  simp only [Function.lines, List.cons_append, List.mem_cons, List.mem_append, Statement.deeper,
    List.mem_map, List.not_mem_nil, or_false] at h
  rcases h with heq | ⟨l, -, heq⟩ | heq
  · exact headLine_ne_overrideHead hname hopen heq.symm
  · rw [← heq] at hhead
    simp at hhead
  · rw [heq] at hhead
    simp at hhead

theorem decimalsOn?_intercalate {pre post : List (List String)} {b rest : List String} {l : String}
    (h : ∀ b ∈ pre, overrideLine ∉ b) :
    decimalsOn? ([""].intercalate (pre ++ (overrideLine :: l :: b) :: post) ++ rest) =
      returned? l := by
  have hempty : overrideLine ≠ "" := by decide
  induction pre with
  | nil =>
    cases post with
    | nil => simp [decimalsOn?]
    | cons p post => simp [decimalsOn?]
  | cons p pre ih =>
    have hp := h p List.mem_cons_self
    have ih := ih fun x hx => h x (List.mem_cons_of_mem _ hx)
    have hne : pre ++ (overrideLine :: l :: b) :: post ≠ [] := by simp
    obtain ⟨q, qs, hqs⟩ := List.exists_cons_of_ne_nil hne
    rw [List.cons_append, hqs, List.intercalate_cons_cons, List.append_assoc, ← hqs,
      decimalsOn?_append, ih]
    rw [List.mem_append, List.mem_singleton, not_or]
    exact ⟨hp, hempty⟩

/-! ## The override among the other blocks -/

theorem Declares.head?_render {b : StateBlock} (h : Declares c b) :
    ∀ ds ∈ b, ∀ d ∈ ds, ∃ y ∈ ['b', 'm', 'e', 'u'], d.render.toList.head? = some y := by
  have hword : ∀ n v, (wordVariable n v).render.toList.head? = some 'u' := by
    intro n v
    simp [toList_render_wordVariable, toList_wordStart]
  have hplain : ∀ n k e, (Declaration.variable (.plain .bool) true k n e).render.toList.head? =
      some 'b' := by
    simp [Declaration.render, StateType.render, Abi.Ty.name]
  cases h with
  | role =>
    simp [roleConstant, Declaration.render, StateType.render, Abi.Ty.name]
  | antiWhale =>
    simp [antiWhaleState, head?_enabledFlag, hword]
  | antiBot =>
    simp [antiBotState, head?_enabledFlag, head?_privateMapping, hword]
  | blacklist =>
    simp [blacklistState, head?_privateMapping, head?_event]
  | allowlist =>
    simp [allowlistState, head?_privateMapping, head?_event, hplain]

theorem overrideHead_notMem_state {b : StateBlock} (h : Declares c b) : overrideHead ∉ b.lines := by
  have hhead : overrideHead.toList.head? = some 'f' := by decide
  suffices hlines : ∀ l ∈ b.lines, l.toList.head? ≠ some 'f' from fun hmem => hlines _ hmem hhead
  refine forall_mem_intercalate (by simp) fun ls hls l hl => ?_
  obtain ⟨ds, hds, rfl⟩ := List.mem_map.mp hls
  obtain ⟨d, hd, rfl⟩ := List.mem_map.mp hl
  obtain ⟨y, hy, heq⟩ := h.head?_render ds hds d hd
  rw [heq]
  rintro ⟨⟩
  simp at hy

theorem overrideHead_notMem_constructor (u : SourceUnit) : overrideHead ∉ u.constructorLines := by
  have hhead : overrideHead.toList.head? = some 'f' := by decide
  intro h
  simp only [constructorLines, List.cons_append, List.mem_cons, List.mem_append, List.mem_map,
    List.not_mem_nil, or_false] at h
  rcases h with heq | ((h | heq) | ⟨s, -, heq⟩) | heq
  · rw [heq] at hhead
    simp at hhead
  · rw [head?_paramTexts h] at hhead
    simp at hhead
  · rw [heq, initializerText] at hhead
    simp at hhead
  · rw [← heq] at hhead
    simp at hhead
  · rw [heq] at hhead
    simp at hhead

theorem Emits.eq_or_name {f : Function} (h : Emits c f) :
    (c.decimals ≠ 18 ∧ f = decimalsOverride c.decimals) ∨
      f.name ≠ "decimals" ∧ '(' ∉ f.name.toList := by
  have hnames : ∀ n ∈ ["mint", "pause", "unpause", "setAntiWhaleLimits", "setTradingCooldown",
      "setBlacklisted", "isBlacklisted", "setAllowlisted", "setAllowlistEnabled", "isAllowlisted",
      "_update"], n ≠ "decimals" ∧ '(' ∉ n.toList := by
    decide
  simp only [List.forall_mem_cons] at hnames
  obtain ⟨hmint, hpause, hunpause, hlimits, hcooldown, hsetBlacklisted, hisBlacklisted,
    hsetAllowlisted, henabled, hisAllowlisted, hupdate, -⟩ := hnames
  cases h with
  | decimals h => exact .inl ⟨h, rfl⟩
  | pausing _ _ hf =>
    simp only [pauseFunctions, List.mem_cons, List.not_mem_nil, or_false] at hf
    rcases hf with rfl | rfl
    · exact .inr hpause
    · exact .inr hunpause
  | mint => exact .inr hmint
  | setAntiWhaleLimits => exact .inr hlimits
  | setTradingCooldown => exact .inr hcooldown
  | setBlacklisted => exact .inr hsetBlacklisted
  | isBlacklisted => exact .inr hisBlacklisted
  | setAllowlisted => exact .inr hsetAllowlisted
  | setAllowlistEnabled => exact .inr henabled
  | isAllowlisted => exact .inr hisAllowlisted
  | hook => exact .inr hupdate

/-! ## The decimals of a source -/

theorem headLine_decimalsOverride (n : Nat) : (decimalsOverride n).headLine = overrideHead := by
  have htype : Abi.Ty.name (.uint 8) = "uint8" := by decide
  apply String.toList_inj.mp
  simp [Function.headLine, decimalsOverride, Function.qualifiers, overrideHead, Visibility.render,
    Purity.render, Function.overrideText, htype]

theorem lines_decimalsOverride (n : Nat) : (decimalsOverride n).lines =
    [overrideHead, "    return " ++ decimal n ++ ";", "\x7d"] := by
  have hbody : Statement.bodyLines (decimalsOverride n).body = ["return " ++ decimal n ++ ";"] :=
    rfl
  have hblanks : "    " ++ ("return " ++ decimal n ++ ";") = "    return " ++ decimal n ++ ";" := by
    apply String.toList_inj.mp
    simp
  rw [Function.lines, headLine_decimalsOverride, hbody, Statement.deeper, List.map_singleton,
    hblanks]
  rfl

theorem returned?_return (n : Nat) : returned? (indentLine ("    return " ++ decimal n ++ ";")) =
    some n := by
  have hchars : ("    return " ++ decimal n ++ ";").toList =
      "    return ".toList ++ ((decimal n).toList ++ [';']) := by
    simp
  rw [returned?, behind_indentLine (by decide), hchars, after_append (notMem_decimal rfl n),
    String.ofList_toList]
  exact number?_decimal n

theorem overrideLine_notMem_topLines (u : SourceUnit) : overrideLine ∉ u.topLines := by
  have hhead : overrideLine.toList.head? = some ' ' := by decide
  exact fun hmem => head?_topLines hmem hhead

/-- The source of a configuration reports its decimals. -/
theorem reportedDecimals?_source (h : IsContractName c.contractName) :
    reportedDecimals? c.source = some c.decimals := by
  have hstate : ∀ b ∈ (state c).map StateBlock.lines, overrideHead ∉ b := by
    intro ls hls
    obtain ⟨b, hb, rfl⟩ := List.mem_map.mp hls
    exact overrideHead_notMem_state (mem_state_iff.mp hb)
  have hconstructor := overrideHead_notMem_constructor c.contract.toSourceUnit
  have hblocks : c.contract.blocks = ((state c).map StateBlock.lines
      ++ [c.contract.toSourceUnit.constructorLines]) ++ (functions c).map Function.lines := by
    rw [List.append_assoc]
    rfl
  have hpre : ∀ b ∈ (state c).map StateBlock.lines ++ [c.contract.toSourceUnit.constructorLines],
      overrideHead ∉ b := by
    simp only [List.forall_mem_append, List.forall_mem_singleton]
    exact ⟨hstate, hconstructor⟩
  rw [reportedDecimals?, pieces_source h, Contract.sourceLines, List.append_assoc,
    decimalsOn?_append (overrideLine_notMem_topLines _), hblocks]
  by_cases hd : c.decimals = 18
  · have hfunctions : ∀ b ∈ (functions c).map Function.lines, overrideHead ∉ b := by
      intro ls hls
      obtain ⟨f, hf, rfl⟩ := List.mem_map.mp hls
      rcases (mem_functions_iff.mp hf).eq_or_name with ⟨hne, -⟩ | ⟨hname, hopen⟩
      · exact absurd hd hne
      · exact overrideHead_notMem hname hopen
    have hlines : ∀ l ∈ [""].intercalate (((((state c).map StateBlock.lines
        ++ [c.contract.toSourceUnit.constructorLines]) ++ (functions c).map Function.lines).map
          (·.map indentLine))), l ≠ overrideLine := by
      refine forall_mem_intercalate (by decide) fun ls hls l hl => ?_
      obtain ⟨b, hb, rfl⟩ := List.mem_map.mp hls
      rintro rfl
      rcases List.mem_append.mp hb with hb | hb
      · exact overrideLine_mem_map (hpre b hb) hl
      · exact overrideLine_mem_map (hfunctions b hb) hl
    have hend : ∀ l ∈ ["\x7d", ""], l ≠ overrideLine := by decide
    rw [decimalsOn?_append fun hmem => hlines _ hmem rfl, ← List.append_nil ["\x7d", ""],
      decimalsOn?_append fun hmem => hend _ hmem rfl, hd]
    rfl
  · have hfunctions : functions c = decimalsOverride c.decimals
        :: (mintFunctions c ++ pausing c ++ securityFunctions c ++ hook c) := by
      rw [functions, decimalsFunction, if_neg hd]
      simp only [List.cons_append, List.nil_append]
      rfl
    have hline : indentLine overrideHead = overrideLine := by
      apply String.toList_inj.mp
      rw [toList_indentLine (by decide), overrideLine, String.toList_append]
    rw [hfunctions, List.map_cons, lines_decimalsOverride, List.map_append, List.map_cons,
      List.map_cons, List.map_cons, hline, decimalsOn?_intercalate, returned?_return]
    intro ls hls
    obtain ⟨b, hb, rfl⟩ := List.mem_map.mp hls
    exact overrideLine_mem_map (hpre b hb)

end TokenLaunch.Synthesis
