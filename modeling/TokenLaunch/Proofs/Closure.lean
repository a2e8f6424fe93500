import TokenLaunch.Proofs.Source.Scope

/-!
# Closed sources

The sections of an accepted draft fit together: what a constructor or a function mentions is imported,
inherited, declared or a parameter, each by one other section and once.
-/

namespace TokenLaunch

open Text

namespace SourceUnit

/-- A source unit whose sections fit together.  Nothing is imported, inherited, declared or emitted
twice, and every word stands for something that another section provides. -/
structure SelfContained (u : SourceUnit) : Prop where
  nodup_imports : u.imports.Nodup
  nodup_bases : u.bases.Nodup
  /-- Every base is imported, by one path. -/
  imported : ∀ b ∈ u.bases, ∃! path, path ∈ u.imports ∧ LeadsTo path b
  /-- Every import is that of a base, but for one that guards need. -/
  imports : ∀ path ∈ u.imports, (∃ b ∈ u.bases, LeadsTo path b) ∨ path = Synthesis.contextPath
  /-- The bases whose constructors take arguments are called, in the order of inheritance. -/
  initialized : u.initializers.map callee = u.bases.filter (· ∈ initializedBases)
  construction : ∀ w ∈ u.constructorWords, u.Resolves u.paramWords w
  functions : ∀ block ∈ u.functions, ∀ w ∈ identifiers block,
    u.Resolves (identifiers (firstBrackets block)) w
  /-- What a contract of the library gives is mentioned only where it is inherited. -/
  inherited : ∀ b w, (b, w) ∈ libraryMembers → w ∈ u.constructorWords ++ u.functionWords →
    b ∈ u.bases
  nodup_declared : u.declared.Nodup
  nodup_functionNames : u.functionNames.Nodup
  /-- No function and no parameter has the name of a declaration. -/
  apart : ∀ w ∈ u.declared, w ∉ u.functionNames ∧ w ∉ u.paramWords ∧
    ∀ block ∈ u.functions, w ∉ identifiers (firstBrackets block)

end SourceUnit

open SourceUnit Solidity

namespace Synthesis

variable {c : TokenConfig} {d : Draft}

/-! ## Words that stand for one thing -/

/-- The words of all parameters, of the constructor and of functions. -/
def paramVocabulary : List String :=
  ["string", "memory", "uint256", "uint8", "address", "bool", "name_", "symbol_", "initialSupply",
    "initialAuthority", "to", "amount", "newMaxTransactionAmount", "newMaxHolderLimit",
    "newCooldown", "account", "blacklisted", "allowed", "enabled", "from", "value"]

theorem emitted_paramWords_subset {f : Function} (h : Emits c f) :
    f.params.flatMap Parameter.words ⊆ paramVocabulary := by
  cases h with
  | pausing _ _ hmem =>
    simp only [pauseFunctions, List.mem_cons, List.not_mem_nil, or_false] at hmem
    rcases hmem with rfl | rfl <;> exact List.nil_subset _
  | decimals => exact List.nil_subset _
  | hook =>
    rw [words_hookParams]
    decide
  | mint | setAntiWhaleLimits | setTradingCooldown | setBlacklisted | isBlacklisted
  | setAllowlisted | setAllowlistEnabled | isAllowlisted =>
    simp only [mintFunction, setAntiWhaleLimits, setTradingCooldown, setBlacklisted, isBlacklisted,
      setAllowlisted, setAllowlistEnabled, isAllowlisted, privileged, query]
    decide

theorem paramWords_subset (c : TokenConfig) : c.sourceUnit.paramWords ⊆ paramVocabulary := by
  have hfixed : ([⟨.string, "name_"⟩, ⟨.string, "symbol_"⟩, ⟨.uint 256, "initialSupply"⟩,
      ⟨.uint 8, ""⟩] : List Parameter).flatMap Parameter.words ⊆ paramVocabulary := by
    decide
  have hauthority : ([⟨.address, "initialAuthority"⟩] : List Parameter).flatMap Parameter.words ⊆
      paramVocabulary := by
    decide
  rw [paramWords_sourceUnit, params, List.flatMap_append]
  refine List.append_subset.mpr ⟨hfixed, ?_⟩
  split
  · exact hauthority
  · exact List.nil_subset _

theorem functionNames_subset (c : TokenConfig) : c.sourceUnit.functionNames ⊆ emittedNames := by
  rw [functionNames_sourceUnit]
  exact (names_functions_sublist c).subset

theorem declared_subset (c : TokenConfig) : c.sourceUnit.declared ⊆ declaredNames := by
  rw [declared_sourceUnit]
  exact (names_declarations_sublist c).subset

/-- Words that mean the same in every source. -/
def fixedWords : List String :=
  languageWords ++ emittedNames ++ ["ERC20", "Ownable", "AccessControl", "AccessManaged",
    "ERC20Burnable", "Pausable", "ERC20Capped"]

/-- A word that does not mean the same everywhere is a parameter, a part of a base or declared. -/
theorem resolves_elsewhere {ps : List String} {w : String} (hw : w ∉ fixedWords)
    (h : c.sourceUnit.Resolves ps w) :
    w ∈ ps ∨ (∃ b ∈ c.sourceUnit.bases, (b, w) ∈ libraryMembers) ∨
      w ∈ declaredNames ∧ c.sourceUnit.declared.count w = 1 := by
  rw [fixedWords, List.mem_append, List.mem_append, not_or, not_or] at hw
  obtain ⟨⟨hlanguage, hfunction⟩, hbase⟩ := hw
  cases h with
  | language h => exact absurd h hlanguage
  | param h => exact .inl h
  | base h =>
    obtain ⟨b, -, rfl⟩ := List.mem_map.mp h
    exact absurd (by cases b <;> decide) hbase
  | inherited hb h => exact .inr (.inl ⟨_, hb, h⟩)
  | function h => exact absurd (functionNames_subset c h) hfunction
  | declared h => exact .inr (.inr ⟨declared_subset c (List.count_pos_iff.mp (by omega)), h⟩)

/-- A member of the library is nothing else, and a member of one contract. -/
theorem libraryMembers_apart {b w : String} (h : (b, w) ∈ libraryMembers) :
    w ∉ fixedWords ∧ w ∉ paramVocabulary ∧ w ∉ declaredNames ∧
      ∀ b', (b', w) ∈ libraryMembers → b' = b := by
  have hlists : ∀ m ∈ libraryMembers, m.2 ∉ fixedWords ∧ m.2 ∉ paramVocabulary ∧
      m.2 ∉ declaredNames ∧ ∀ m' ∈ libraryMembers, m'.2 = m.2 → m'.1 = m.1 := by
    decide
  obtain ⟨hfixed, hparam, hdeclared, hunique⟩ := hlists _ h
  exact ⟨hfixed, hparam, hdeclared, fun b' h' => hunique _ h' rfl⟩

/-- A name that the state may declare is nothing else. -/
theorem declaredNames_apart {w : String} (h : w ∈ declaredNames) :
    w ∉ fixedWords ∧ w ∉ paramVocabulary ∧ ∀ b, (b, w) ∉ libraryMembers := by
  have hlists : ∀ w ∈ declaredNames, w ∉ fixedWords ∧ w ∉ paramVocabulary := by decide
  exact ⟨(hlists w h).1, (hlists w h).2, fun b hmember => (libraryMembers_apart hmember).2.2.1 h⟩

/-- A member of the library is mentioned only where it is inherited. -/
theorem mem_bases_of_resolves {ps : List String} {b w : String} (hps : ps ⊆ paramVocabulary)
    (hw : (b, w) ∈ libraryMembers) (h : c.sourceUnit.Resolves ps w) : b ∈ c.sourceUnit.bases := by
  obtain ⟨hfixed, hparam, hdeclared, hunique⟩ := libraryMembers_apart hw
  rcases resolves_elsewhere hfixed h with h | ⟨b', hb, h⟩ | ⟨h, -⟩
  · exact absurd (hps h) hparam
  · rwa [← hunique b' h]
  · exact absurd h hdeclared

/-- A name of state is mentioned only where it is declared, and it is declared once. -/
theorem count_of_resolves {ps : List String} {w : String} (hps : ps ⊆ paramVocabulary)
    (hw : w ∈ declaredNames) (h : c.sourceUnit.Resolves ps w) :
    c.sourceUnit.declared.count w = 1 := by
  obtain ⟨hfixed, hparam, hmember⟩ := declaredNames_apart hw
  rcases resolves_elsewhere hfixed h with h | ⟨b, -, h⟩ | ⟨-, h⟩
  · exact absurd (hps h) hparam
  · exact absurd h (hmember b)
  · exact h

/-- The names of the parameters of a constructor. -/
def constructorParams : List String := ["name_", "symbol_", "initialSupply", "initialAuthority"]

/-- A parameter of the constructor is mentioned only where it is declared. -/
theorem mem_paramWords_of_resolves {w : String} (hw : w ∈ constructorParams)
    (h : c.sourceUnit.Resolves c.sourceUnit.paramWords w) : w ∈ c.sourceUnit.paramWords := by
  have hlists : ∀ w ∈ constructorParams, w ∉ fixedWords ∧ w ∉ declaredNames ∧
      ∀ m ∈ libraryMembers, m.2 ≠ w := by
    decide
  obtain ⟨hfixed, hdeclared, hmember⟩ := hlists w hw
  rcases resolves_elsewhere hfixed h with h | ⟨b, -, h⟩ | ⟨h, -⟩
  · exact h
  · exact absurd rfl (hmember _ h)
  · exact absurd h hdeclared

/-! ## The source of an accepted draft -/

/-- Every word of a block is known, its parameters being those in its brackets. -/
theorem resolves_functions (hd : d.Accepted c) : ∀ block ∈ c.sourceUnit.functions,
    identifiers (firstBrackets block) ⊆ paramVocabulary ∧
      ∀ w ∈ identifiers block, c.sourceUnit.Resolves (identifiers (firstBrackets block)) w := by
  intro block hblock
  obtain ⟨f, hf, hwords, hparams⟩ := emits_of_mem_sourceUnit c block hblock
  rw [hwords, hparams]
  exact ⟨emitted_paramWords_subset hf, hf.resolves hd⟩

/-- A word behind the parameters of a constructor or in a function is known. -/
theorem exists_resolves (hd : d.Accepted c) {w : String}
    (hw : w ∈ c.sourceUnit.constructorWords ++ c.sourceUnit.functionWords) :
    ∃ ps ⊆ paramVocabulary, c.sourceUnit.Resolves ps w := by
  rcases List.mem_append.mp hw with hw | hw
  · exact ⟨_, paramWords_subset c, resolves_constructorWords c w hw⟩
  · obtain ⟨block, hblock, hw⟩ := List.mem_flatMap.mp hw
    obtain ⟨hparams, hresolves⟩ := resolves_functions hd block hblock
    exact ⟨_, hparams, hresolves w hw⟩

theorem selfContained (hd : d.Accepted c) : c.sourceUnit.SelfContained where
  nodup_imports := nodup_imports c
  nodup_bases := (nodup_bases c).map Base.name_injective
  imported := by
    have hunit : c.sourceUnit.bases = (bases c).map Base.name := rfl
    rw [hunit, List.forall_mem_map]
    intro b hb
    refine ⟨b.importPath, ⟨mem_imports_iff.mpr (.inl ⟨b, hb, rfl⟩), leadsTo_base_iff.mpr rfl⟩, ?_⟩
    rintro path ⟨hpath, hleads⟩
    rcases mem_imports_iff.mp hpath with ⟨b', -, rfl⟩ | ⟨-, rfl⟩
    · rw [leadsTo_base_iff.mp hleads]
    · exact absurd hleads (not_leadsTo_contextPath b)
  imports := by
    intro path hpath
    rcases mem_imports_iff.mp hpath with ⟨b, hb, rfl⟩ | ⟨-, rfl⟩
    · exact .inl ⟨b.name, List.mem_map_of_mem hb, leadsTo_base_iff.mpr rfl⟩
    · exact .inr rfl
  initialized := callees_sourceUnit c
  construction := resolves_constructorWords c
  functions := fun block hblock => (resolves_functions hd block hblock).2
  inherited := by
    intro b w hmember hw
    obtain ⟨ps, hps, hresolves⟩ := exists_resolves hd hw
    exact mem_bases_of_resolves hps hmember hresolves
  nodup_declared := by
    rw [declared_sourceUnit]
    exact nodup_declarations c
  nodup_functionNames := by
    rw [functionNames_sourceUnit]
    exact nodup_functions c
  apart := by
    intro w hw
    obtain ⟨hfixed, hparam, -⟩ := declaredNames_apart (declared_subset c hw)
    rw [fixedWords, List.mem_append, List.mem_append, not_or, not_or] at hfixed
    exact ⟨fun h => hfixed.1.2 (functionNames_subset c h), fun h => hparam (paramWords_subset c h),
      fun block hblock h => hparam ((resolves_functions hd block hblock).1 h)⟩

end Synthesis

open Synthesis

/-- The source of an accepted draft is closed.  The context is imported exactly where a security
function is chosen, and every name of state or of a parameter that is mentioned is declared. -/
theorem selfContained_of_validate {d : Draft} {c : TokenConfig} (h : d.validate = .ok c) :
    c.sourceUnit.SelfContained ∧
      (contextPath ∈ c.sourceUnit.imports ↔ c.securityFunctions ≠ []) ∧
      (∀ w ∈ declaredNames, w ∈ c.sourceUnit.constructorWords ++ c.sourceUnit.functionWords →
        c.sourceUnit.declared.count w = 1) ∧
      ∀ w ∈ constructorParams, w ∈ c.sourceUnit.constructorWords → w ∈ c.sourceUnit.paramWords := by
  have hd := Draft.validate_eq_ok_iff.mp h
  refine ⟨selfContained hd, ?_, fun w hw hmem => ?_, fun w hw hmem => ?_⟩
  · have hguarded : c.isGuarded = true ↔ c.securityFunctions ≠ [] := by
      simp [TokenConfig.isGuarded]
    rw [mem_imports_iff, ← hguarded]
    constructor
    · rintro (⟨b, -, hpath⟩ | ⟨hguarded, -⟩)
      · exact absurd (hpath ▸ leadsTo_base_iff.mpr rfl) (not_leadsTo_contextPath b)
      · exact hguarded
    · exact fun hguarded => .inr ⟨hguarded, rfl⟩
  · obtain ⟨ps, hps, hresolves⟩ := exists_resolves hd hmem
    exact count_of_resolves hps hw hresolves
  · exact mem_paramWords_of_resolves hw (resolves_constructorWords c w hmem)

theorem selfContained_fullDraft : ∃ c, fullDraft.validate = .ok c ∧ c.accessControl = .roles ∧
    c.sourceUnit.SelfContained ∧ contextPath ∈ c.sourceUnit.imports := by
  have hchosen : fullDraft.validate.toOption.any (fun c =>
      decide (c.accessControl = .roles ∧ c.securityFunctions ≠ [])) = true := by
    decide +kernel
  obtain ⟨c, hc, hp⟩ := Draft.exists_of_validate hchosen
  obtain ⟨haccess, hsecurity⟩ := of_decide_eq_true hp
  have hclosed := selfContained_of_validate hc
  exact ⟨c, hc, haccess, hclosed.1, hclosed.2.1.mpr hsecurity⟩

end TokenLaunch
