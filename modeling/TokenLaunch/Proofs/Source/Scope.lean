import TokenLaunch.Proofs.Source.Sections

/-!
# What the words of a source stand for

The rules that make a contract add to its sections without looking at what others have added.  Still
every word of a constructor or a function is a word of the language, a parameter, a base, a part of a
base that is inherited, a function, or declared once in the state.
-/

namespace TokenLaunch

open Text

namespace SourceUnit

/-- The words of the language: of its syntax, its types, and what it gives every function. -/
def languageWords : List String :=
  ["function", "public", "external", "internal", "view", "pure", "override", "returns", "return",
    "require", "if", "emit", "address", "bool", "string", "memory", "uint8", "uint256", "true",
    "msg.sender", "block.timestamp"]

/-- What contracts of the library give to those that inherit them. -/
def libraryMembers : List (String × String) :=
  [("ERC20", "_mint"), ("ERC20", "totalSupply"), ("ERC20", "balanceOf"), ("ERC20", "super._update"),
    ("ERC20", "_msgSender"), ("Ownable", "onlyOwner"), ("AccessControl", "onlyRole"),
    ("AccessControl", "_grantRole"), ("AccessControl", "DEFAULT_ADMIN_ROLE"),
    ("AccessManaged", "restricted"), ("Pausable", "paused"), ("Pausable", "_pause"),
    ("Pausable", "_unpause")]

/-- What one contract of the library gives. -/
def members (b : String) : List String := (libraryMembers.filter (·.1 = b)).map (·.2)

/-- What a word of a source stands for, where these words are those of parameters. -/
inductive Resolves (u : SourceUnit) (params : List String) (w : String) : Prop
  | language (h : w ∈ languageWords)
  | param (h : w ∈ params)
  | base (h : w ∈ u.bases)
  | inherited {b : String} (hb : b ∈ u.bases) (h : (b, w) ∈ libraryMembers)
  | function (h : w ∈ u.functionNames)
  | declared (h : u.declared.count w = 1)

end SourceUnit

open SourceUnit Solidity

namespace Synthesis

variable {c : TokenConfig}

/-! ## What words stand for -/

/-- Words that are found among those of the language, the parameters and some that are known. -/
theorem resolves_of_known {u : SourceUnit} {ws ps known : List String}
    (h : ∀ w ∈ ws, w ∈ languageWords ∨ w ∈ ps ∨ w ∈ known)
    (hknown : ∀ w ∈ known, u.Resolves ps w) : ∀ w ∈ ws, u.Resolves ps w := by
  intro w hw
  rcases h w hw with hw | hw | hw
  · exact .language hw
  · exact .param hw
  · exact hknown w hw

theorem mem_members_iff {b w : String} : w ∈ members b ↔ (b, w) ∈ libraryMembers := by
  simp [members]

/-- What an inherited base gives is known. -/
theorem resolves_member {ps : List String} {b : Base} (hb : b ∈ bases c) :
    ∀ w ∈ members b.name, c.sourceUnit.Resolves ps w :=
  fun _ hw => .inherited (List.mem_map_of_mem hb) (mem_members_iff.mp hw)

/-- What a block of state declares is known. -/
theorem resolves_declared {ps : List String} {b : StateBlock} (hb : Declares c b) :
    ∀ w ∈ blockNames b, c.sourceUnit.Resolves ps w :=
  fun _ hw => .declared (count_declared hb hw)

theorem resolves_antiWhale {ps : List String} (h : c.antiWhale.isSome = true) :
    ∀ w ∈ ["ANTI_WHALE_ENABLED", "maxTransactionAmount", "maxHolderLimit"],
      c.sourceUnit.Resolves ps w := by
  obtain ⟨limits, hlimits⟩ := Option.isSome_iff_exists.mp h
  exact resolves_declared (.antiWhale hlimits)

theorem resolves_antiBot {ps : List String} (h : c.tradingCooldown.isSome = true) :
    ∀ w ∈ ["ANTI_BOT_ENABLED", "tradingCooldown", "_lastTradeTime"],
      c.sourceUnit.Resolves ps w := by
  obtain ⟨cooldown, hcooldown⟩ := Option.isSome_iff_exists.mp h
  exact resolves_declared (.antiBot hcooldown)

theorem accessBase_mem_bases {access : AccessControl} {b : Base} (haccess : c.accessControl = access)
    (h : accessBase access = some b) : b ∈ bases c := by
  subst haccess
  exact mem_bases_iff.mpr (.inr (.inl h))

theorem resolves_role {ps : List String} {role : String} (haccess : c.accessControl = .roles)
    (hrole : role = adminRole ∨ role ∈ roles c) : c.sourceUnit.Resolves ps role := by
  have hbase : Base.accessControl ∈ bases c := accessBase_mem_bases haccess rfl
  rcases hrole with rfl | hrole
  · exact resolves_member hbase _ (by decide)
  · exact resolves_declared (.role hrole) _ (by simp [blockNames, roleConstant, Declaration.name])

theorem erc20_mem_bases (c : TokenConfig) : Base.erc20 ∈ bases c := mem_bases_iff.mpr (.inl rfl)

theorem pausable_mem_bases (h : c.has .pause = true) : Base.pausable ∈ bases c :=
  mem_bases_iff.mpr (.inr (.inr (.inr (.inl ⟨h, rfl⟩))))

/-- A guard is of the base for access control; a role is its own or declared. -/
theorem resolves_guard {ps : List String} {role : String} {g : Guard}
    (hg : guard c.accessControl role = some g)
    (hrole : c.accessControl = .roles → role = adminRole ∨ role ∈ roles c) :
    ∀ w ∈ g.words, c.sourceUnit.Resolves ps w := by
  cases haccess : c.accessControl with
  | none =>
    rw [haccess] at hg
    cases hg
  | ownable =>
    rw [haccess] at hg
    cases hg
    exact resolves_member (accessBase_mem_bases haccess rfl)
  | manager =>
    rw [haccess] at hg
    cases hg
    exact resolves_member (accessBase_mem_bases haccess rfl)
  | roles =>
    rw [haccess] at hg
    cases hg
    have hbase : Base.accessControl ∈ bases c := accessBase_mem_bases haccess rfl
    simp only [Guard.words, List.forall_mem_cons]
    exact ⟨resolves_member hbase _ (by decide), resolves_role haccess (hrole haccess), by simp⟩

/-- A function whose qualifiers and whose body are known. -/
theorem resolves_words {f : Function} (hf : Emits c f)
    (hhead : ∀ w ∈ f.headWords,
      c.sourceUnit.Resolves (f.params.flatMap Parameter.words) w)
    (hbody : ∀ w ∈ Statement.wordsAll f.body,
      c.sourceUnit.Resolves (f.params.flatMap Parameter.words) w) :
    ∀ w ∈ f.words, c.sourceUnit.Resolves (f.params.flatMap Parameter.words) w := by
  simp only [Function.words, List.cons_append, List.forall_mem_cons, List.forall_mem_append]
  refine ⟨.language (by decide), .function ?_, ⟨fun w hw => .param hw, hhead⟩, hbody⟩
  rw [functionNames_sourceUnit]
  exact List.mem_map_of_mem (mem_functions_iff.mpr hf)

theorem resolves_privileged {name role : String} {visibility : Visibility} {g : Guard}
    {params : List Parameter} {body : List Statement} {known : List String}
    (hf : Emits c (privileged name visibility g params body))
    (hg : guard c.accessControl role = some g)
    (hrole : c.accessControl = .roles → role = adminRole ∨ role ∈ roles c)
    (hbody : ∀ w ∈ Statement.wordsAll body,
      w ∈ languageWords ∨ w ∈ params.flatMap Parameter.words ∨ w ∈ known)
    (hknown : ∀ w ∈ known, c.sourceUnit.Resolves (params.flatMap Parameter.words) w) :
    ∀ w ∈ (privileged name visibility g params body).words,
      c.sourceUnit.Resolves (params.flatMap Parameter.words) w := by
  have hvisibility : visibility.render ∈ languageWords := by
    cases visibility <;> decide
  refine resolves_words hf ?_ (resolves_of_known hbody hknown)
  rw [headWords_privileged, List.forall_mem_cons]
  exact ⟨.language hvisibility, resolves_guard hg hrole⟩

/-! ## The hook -/

/-- The words of the parameters of the hook. -/
def hookParamWords : List String := ["address", "from", "address", "to", "uint256", "value"]

theorem words_hookParams (c : TokenConfig) :
    (hookFunction c).params.flatMap Parameter.words = hookParamWords := by
  have hwords : ([⟨.address, "from"⟩, ⟨.address, "to"⟩, ⟨.uint 256, "value"⟩] :
      List Parameter).flatMap Parameter.words = hookParamWords := by
    decide
  exact hwords

theorem resolves_betweenHolders {s : Statement} (hs : s ∈ betweenHolders c) :
    ∀ w ∈ s.words, c.sourceUnit.Resolves hookParamWords w := by
  have hcondition : ∀ w ∈ (Expression.binary .and (isNotZero "from") (isNotZero "to")).words,
      w ∈ languageWords ∨ w ∈ hookParamWords ∨ w ∈ ([] : List String) := by
    decide
  have hguard (t : Statement) (ht : (c.antiWhale.isSome = true ∧ t = requireLimits) ∨
      (c.tradingCooldown.isSome = true ∧ t = requireCooldown)) :
      ∀ w ∈ t.words, c.sourceUnit.Resolves hookParamWords w := by
    rcases ht with ⟨hsome, rfl⟩ | ⟨hsome, rfl⟩
    · have hknown : ∀ w ∈ members "ERC20" ++
          ["ANTI_WHALE_ENABLED", "maxTransactionAmount", "maxHolderLimit"],
          c.sourceUnit.Resolves hookParamWords w := by
        rw [List.forall_mem_append]
        exact ⟨resolves_member (erc20_mem_bases c), resolves_antiWhale hsome⟩
      exact resolves_of_known (by decide) hknown
    · exact resolves_of_known (by decide) (resolves_antiBot hsome)
  unfold betweenHolders at hs
  extract_lets guards at hs
  split at hs
  · cases hs
  · obtain rfl := List.mem_singleton.mp hs
    simp only [Statement.words, List.cons_append, List.forall_mem_cons, List.forall_mem_append]
    refine ⟨.language (by decide), resolves_of_known hcondition (by simp), fun w hw => ?_⟩
    obtain ⟨t, ht, hw⟩ := Statement.mem_wordsAll.mp hw
    simp only [guards, List.mem_append, mem_ite_nil, List.mem_singleton] at ht
    exact hguard t ht w hw

theorem resolves_hookBody (c : TokenConfig) :
    ∀ w ∈ Statement.wordsAll (hookBody c), c.sourceUnit.Resolves hookParamWords w := by
  intro w hw
  obtain ⟨s, hs, hw⟩ := Statement.mem_wordsAll.mp hw
  have herc20 : ∀ w ∈ members "ERC20", c.sourceUnit.Resolves hookParamWords w :=
    resolves_member (erc20_mem_bases c)
  simp only [hookBody, List.mem_append, mem_ite_nil, List.mem_singleton] at hs
  rcases hs with ((((⟨-, rfl⟩ | ⟨hpause, rfl⟩) | ⟨hblack, rfl⟩) | ⟨hallow, rfl⟩) | hbetween) | rfl
  · exact resolves_of_known (by decide) herc20 w hw
  · have hknown : ∀ w ∈ members "Pausable", c.sourceUnit.Resolves hookParamWords w :=
      resolves_member (pausable_mem_bases hpause)
    exact resolves_of_known (by decide) hknown w hw
  · exact resolves_of_known (by decide) (resolves_declared (.blacklist hblack)) w hw
  · exact resolves_of_known (by decide) (resolves_declared (.allowlist hallow)) w hw
  · exact resolves_betweenHolders hbetween w hw
  · exact resolves_of_known (by decide) herc20 w hw

/-! ## Functions and constructor -/

variable {d : Draft}

theorem capped_mem_bases (hd : d.Accepted c) (hcap : c.has .cap = true) : Base.capped ∈ bases c := by
  rw [← hd.isSome_maxSupply] at hcap
  exact mem_bases_iff.mpr (.inr (.inr (.inr (.inr ⟨hcap, rfl⟩))))

/-- A function of one answer. -/
theorem resolves_query {name : String} {params : List Parameter} {e : Expression}
    {known : List String} (hf : Emits c (query name params .bool e))
    (hbody : ∀ w ∈ e.words, w ∈ languageWords ∨ w ∈ params.flatMap Parameter.words ∨ w ∈ known)
    (hknown : ∀ w ∈ known, c.sourceUnit.Resolves (params.flatMap Parameter.words) w) :
    ∀ w ∈ (query name params .bool e).words,
      c.sourceUnit.Resolves (params.flatMap Parameter.words) w := by
  have hhead : ∀ w ∈ ["public", "view", "returns", "bool"], w ∈ languageWords := by decide
  refine resolves_words hf (fun w hw => .language (hhead w hw)) ?_
  have hwords : Statement.wordsAll [.returnValue e] = "return" :: e.words := by
    simp [Statement.wordsAll, Statement.words]
  simp only [query, hwords, List.forall_mem_cons]
  exact ⟨.language (by decide), resolves_of_known hbody hknown⟩

/-- Every word of a function is known, its parameters being those in its brackets. -/
theorem Emits.resolves {f : Function} (hd : d.Accepted c) (h : Emits c f) :
    ∀ w ∈ f.words, c.sourceUnit.Resolves (f.params.flatMap Parameter.words) w := by
  have hadmin : c.accessControl = .roles → adminRole = adminRole ∨ adminRole ∈ roles c :=
    fun _ => .inl rfl
  have hf := h
  cases h with
  | decimals =>
    have hhead : ∀ w ∈ ["public", "pure", "override", "returns", "uint8"], w ∈ languageWords := by
      decide
    have hbody : ∀ w ∈ ["return"], w ∈ languageWords := by decide
    exact resolves_words hf (fun w hw => .language (hhead w hw)) fun w hw => .language (hbody w hw)
  | mint hmint hg =>
    exact resolves_privileged hf hg (fun h => .inr (mem_roles_iff.mpr ⟨h, .inl ⟨hmint, rfl⟩⟩))
      (by decide) (resolves_member (erc20_mem_bases c))
  | pausing hpause hg hmem =>
    have hrole : c.accessControl = .roles → pauserRole = adminRole ∨ pauserRole ∈ roles c :=
      fun h => .inr (mem_roles_iff.mpr ⟨h, .inr ⟨hpause, rfl⟩⟩)
    have hknown {ps : List String} : ∀ w ∈ members "Pausable", c.sourceUnit.Resolves ps w :=
      resolves_member (pausable_mem_bases hpause)
    simp only [pauseFunctions, List.mem_cons, List.not_mem_nil, or_false] at hmem
    rcases hmem with rfl | rfl
    · exact resolves_privileged hf hg hrole (by decide) hknown
    · exact resolves_privileged hf hg hrole (by decide) hknown
  | setAntiWhaleLimits hsome hg =>
    exact resolves_privileged hf hg hadmin (by decide) (resolves_antiWhale hsome)
  | setTradingCooldown hsome hg =>
    exact resolves_privileged hf hg hadmin (by decide) (resolves_antiBot hsome)
  | setBlacklisted hblack hg =>
    exact resolves_privileged hf hg hadmin (by decide)
      (resolves_declared (.blacklist hblack))
  | isBlacklisted hblack =>
    exact resolves_query hf (by decide) (resolves_declared (.blacklist hblack))
  | setAllowlisted hallow hg =>
    exact resolves_privileged hf hg hadmin (by decide)
      (resolves_declared (.allowlist hallow))
  | setAllowlistEnabled hallow hg =>
    exact resolves_privileged hf hg hadmin (by decide)
      (resolves_declared (.allowlist hallow))
  | isAllowlisted hallow =>
    exact resolves_query hf (by decide) (resolves_declared (.allowlist hallow))
  | hook =>
    have hhead : (hookFunction c).headWords = "internal" :: "override" ::
        if c.has .cap then [Base.erc20.name, Base.capped.name] else [] := by
      simp [Function.headWords, hookFunction, Visibility.render]
    refine resolves_words hf ?_ ?_
    · simp only [hhead, List.forall_mem_cons]
      refine ⟨.language (by decide), .language (by decide), fun w hw => ?_⟩
      rw [mem_ite_nil] at hw
      obtain ⟨hcap, hw⟩ := hw
      simp only [List.mem_cons, List.not_mem_nil, or_false] at hw
      rcases hw with rfl | rfl
      · exact .base (List.mem_map_of_mem (erc20_mem_bases c))
      · exact .base (List.mem_map_of_mem (capped_mem_bases hd hcap))
    · rw [words_hookParams]
      exact resolves_hookBody c

theorem mem_paramWords (c : TokenConfig) {name : String}
    (h : name ∈ ["name_", "symbol_", "initialSupply"]) : name ∈ c.sourceUnit.paramWords := by
  have hfixed : ∀ name ∈ ["name_", "symbol_", "initialSupply"], name ∈
      ([⟨.string, "name_"⟩, ⟨.string, "symbol_"⟩, ⟨.uint 256, "initialSupply"⟩, ⟨.uint 8, ""⟩] :
        List Parameter).flatMap Parameter.words := by
    decide
  rw [paramWords_sourceUnit, params, List.flatMap_append]
  exact List.mem_append_left _ (hfixed name h)

theorem authority_mem_paramWords (h : c.accessControl = .manager) :
    "initialAuthority" ∈ c.sourceUnit.paramWords := by
  rw [paramWords_sourceUnit, params, if_pos h, List.flatMap_append]
  refine List.mem_append_right _ ?_
  decide

theorem resolves_initializers (c : TokenConfig) : ∀ i ∈ initializers c,
    ∀ w ∈ i.base :: Expression.wordsAll i.args,
      c.sourceUnit.Resolves c.sourceUnit.paramWords w := by
  have hbase {b : Base} (hb : b ∈ bases c) : c.sourceUnit.Resolves c.sourceUnit.paramWords b.name :=
    .base (List.mem_map_of_mem hb)
  have hargs : ∀ w ∈ Expression.wordsAll [.name "name_", .name "symbol_"],
      w ∈ ["name_", "symbol_", "initialSupply"] := by
    decide
  simp only [initializers, List.cons_append, List.forall_mem_cons, List.forall_mem_append,
    List.forall_mem_map]
  refine ⟨⟨hbase (erc20_mem_bases c), fun w hw => .param (mem_paramWords c (hargs w hw))⟩,
    fun i hi => ?_, fun cap hcap => ⟨hbase ?_, by simp [Expression.wordsAll, Expression.words]⟩⟩
  · cases haccess : c.accessControl with
    | none | roles =>
      rw [haccess] at hi
      cases hi
    | ownable =>
      rw [haccess] at hi
      obtain rfl := List.mem_singleton.mp hi
      have hsender : ∀ w ∈ Expression.wordsAll [sender], w ∈ languageWords := by decide
      exact ⟨hbase (accessBase_mem_bases haccess rfl),
        fun w hw => .language (hsender w hw)⟩
    | manager =>
      rw [haccess] at hi
      obtain rfl := List.mem_singleton.mp hi
      have hauthority : ∀ w ∈ Expression.wordsAll [.name "initialAuthority"],
          w = "initialAuthority" := by
        decide
      refine ⟨hbase (accessBase_mem_bases haccess rfl), fun w hw => .param ?_⟩
      rw [hauthority w hw]
      exact authority_mem_paramWords haccess
  · rw [Option.mem_toList] at hcap
    exact mem_bases_iff.mpr (.inr (.inr (.inr (.inr ⟨by rw [hcap]; rfl, rfl⟩))))

theorem resolves_statements (c : TokenConfig) : ∀ s ∈ statements c, ∀ w ∈ s.words,
    c.sourceUnit.Resolves c.sourceUnit.paramWords w := by
  have herc20 : ∀ w ∈ members "ERC20", c.sourceUnit.Resolves c.sourceUnit.paramWords w :=
    resolves_member (erc20_mem_bases c)
  simp only [statements, List.cons_append, List.forall_mem_cons, List.forall_mem_append]
  refine ⟨fun w hw => ?_, fun s hs => ?_, fun s hs => ?_⟩
  · have hmint : ∀ w ∈ (mintTo sender (.name "initialSupply")).words,
        w ∈ languageWords ∨ w ∈ ["initialSupply"] ∨ w ∈ members "ERC20" := by
      decide
    rcases hmint w hw with hw | hw | hw
    · exact .language hw
    · rw [List.mem_singleton.mp hw]
      exact .param (mem_paramWords c (by decide))
    · exact herc20 w hw
  · rw [mem_ite_nil, List.mem_map] at hs
    obtain ⟨haccess, role, hrole, rfl⟩ := hs
    have hbase : Base.accessControl ∈ bases c := accessBase_mem_bases haccess rfl
    have hwords : (grant role).words = ["_grantRole", role, "msg.sender"] := rfl
    simp only [hwords, List.forall_mem_cons]
    exact ⟨resolves_member hbase _ (by decide), resolves_role haccess (List.mem_cons.mp hrole),
      .language (by decide), by simp⟩
  · rw [mem_ite_nil, List.mem_singleton] at hs
    obtain ⟨hallow, rfl⟩ := hs
    have hwords : (Statement.assign (.entry "_allowlisted" (.call "_msgSender" []))
        (.name "true")).words = ["_allowlisted", "_msgSender", "true"] := rfl
    simp only [hwords, List.forall_mem_cons]
    exact ⟨resolves_declared (.allowlist hallow) _ (by decide), herc20 _ (by decide),
      .language (by decide), by simp⟩

theorem resolves_constructorWords (c : TokenConfig) : ∀ w ∈ c.sourceUnit.constructorWords,
    c.sourceUnit.Resolves c.sourceUnit.paramWords w := by
  rw [constructorWords_sourceUnit]
  simp only [List.forall_mem_append, List.forall_mem_flatMap]
  exact ⟨resolves_initializers c, resolves_statements c⟩

end Synthesis

end TokenLaunch
