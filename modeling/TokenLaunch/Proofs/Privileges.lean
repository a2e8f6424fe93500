import TokenLaunch.Proofs.Source.Scope

/-!
# Privileges

Who may call what.  A function that changes the state and can be called from outside is behind the
guard of the access control that was chosen, and where guards are roles the deployer has every role
that a guard asks for.  What can be called from outside and changes the state is read off the words
between the parameters of a function and its body.
-/

namespace TokenLaunch

open Text

namespace SourceUnit

/-- The words that qualify the function in a block. -/
def qualifierWords (block : String) : List String := identifiers (behindBrackets block)

/-- Words that qualify a function that is called from outside and may change the state. -/
def Opens (ws : List String) : Prop :=
  ("public" ∈ ws ∨ "external" ∈ ws) ∧ "view" ∉ ws ∧ "pure" ∉ ws

instance (ws : List String) : Decidable (Opens ws) := inferInstanceAs (Decidable (_ ∧ _))

/-- A block whose function is called from outside and may change the state. -/
def Mutates (block : String) : Prop := Opens (qualifierWords block)

/-- A block whose function only those may call that have a role. -/
def GuardedBy (role block : String) : Prop := ["onlyRole", role] <:+: qualifierWords block

/-- The guard of a kind of access control as it stands in a source. -/
def guardText : AccessControl → String → Option String
  | .none, _ => none
  | .ownable, _ => some "onlyOwner"
  | .roles, role => some ("onlyRole(" ++ role ++ ")")
  | .manager, _ => some "restricted"

/-- The role that a function is for. -/
def roleFor (name : String) : String :=
  if name = "mint" then "MINTER_ROLE"
  else if name = "pause" ∨ name = "unpause" then "PAUSER_ROLE"
  else "DEFAULT_ADMIN_ROLE"

/-- The functions that set up a guard on transfers. -/
def setters : SecurityFunction → List String
  | .antiWhale => ["setAntiWhaleLimits"]
  | .antiBot => ["setTradingCooldown"]
  | .blacklist => ["setBlacklisted"]
  | .allowlist => ["setAllowlisted", "setAllowlistEnabled"]

/-- The names of the functions that are not for everybody. -/
def privilegedNames : List String :=
  ["mint", "pause", "unpause"] ++ (Choice.all : List SecurityFunction).flatMap setters

def mintText : String := "_mint(msg.sender, initialSupply);"

/-- The statement that gives a role to the deployer. -/
def grantText (role : String) : String := "_grantRole(" ++ role ++ ", msg.sender);"

/-- The role of the administrator, and those that guards ask for. -/
def Needs (u : SourceUnit) (role : String) : Prop :=
  role = "DEFAULT_ADMIN_ROLE" ∨ ∃ block ∈ u.functions, GuardedBy role block

/-- A source unit that gives its privileges to those whom the configuration names, and to nobody
else. -/
structure Safeguarded (c : TokenConfig) (u : SourceUnit) : Prop where
  /-- What changes the state from outside has a guard behind its visibility, and nothing more. -/
  guarded : ∀ block ∈ u.functions, Mutates block →
    ∃ visibility ∈ ["public", "external"], ∃ guard,
      guardText c.accessControl (roleFor (blockName block)) = some guard ∧
        behindBrackets block = " " ++ visibility ++ " " ++ guard ++ " "
  mutates_iff : ∀ block ∈ u.functions, Mutates block ↔ blockName block ∈ privilegedNames
  not_mutates : c.accessControl = .none → ∀ block ∈ u.functions, ¬ Mutates block
  mint : c.accessControl ≠ .none → ("mint" ∈ u.functionNames ↔ .mint ∈ c.standardFunctions)
  pause : c.accessControl ≠ .none → ("pause" ∈ u.functionNames ↔ .pause ∈ c.standardFunctions)
  unpause : c.accessControl ≠ .none → ("unpause" ∈ u.functionNames ↔ .pause ∈ c.standardFunctions)
  setters : c.accessControl ≠ .none → ∀ f, ∀ name ∈ setters f,
    (name ∈ u.functionNames ↔ f ∈ c.securityFunctions)
  /-- The deployer is given the roles that are needed once it has the initial supply. -/
  granted : ∃ rest, u.statements = mintText :: rest ∧
    (c.accessControl = .roles → ∀ role, u.Needs role → grantText role ∈ rest)
  /-- No other role is granted, and none to others. -/
  grants : ∀ s ∈ u.statements, "_grantRole" ∈ identifiers s →
    c.accessControl = .roles ∧ ∃ role, u.Needs role ∧ s = grantText role
  /-- No role is granted elsewhere. -/
  grants_notMem : ∀ s ∈ u.initializers ++ u.functions, "_grantRole" ∉ identifiers s

end SourceUnit

open SourceUnit Solidity

namespace Synthesis

variable {c : TokenConfig} {d : Draft}

/-! ## Guards -/

theorem guardText_eq (access : AccessControl) (role : String) :
    guardText access role = (guard access role).map Guard.render := by
  cases access <;> rfl

/-- The words that the guards of a token may have. -/
def guardVocabulary : List String :=
  ["onlyOwner", "restricted", "onlyRole", minterRole, pauserRole, adminRole]

theorem roleFor_mem (name : String) : roleFor name ∈ guardVocabulary := by
  unfold roleFor
  split
  · decide
  · split <;> decide

theorem words_guard_subset {access : AccessControl} {role : String} {g : Guard}
    (hg : guard access role = some g) (hrole : role ∈ guardVocabulary) :
    g.words ⊆ guardVocabulary := by
  cases access with
  | none => cases hg
  | ownable | manager =>
    cases hg
    decide
  | roles =>
    cases hg
    exact List.cons_subset.mpr ⟨by decide, List.cons_subset.mpr ⟨hrole, List.nil_subset _⟩⟩

/-- A function of privilege, with a guard for its role. -/
structure Privileged (c : TokenConfig) (f : Function) : Prop where
  name_mem : f.name ∈ privilegedNames
  eq : ∃ visibility g, visibility ≠ .isInternal ∧
    guard c.accessControl (roleFor f.name) = some g ∧
      f = privileged f.name visibility g f.params f.body

namespace Privileged

variable {f : Function}

theorem of_guard {name role : String} {visibility : Visibility} {g : Guard}
    {params : List Parameter} {body : List Statement} (hg : guard c.accessControl role = some g)
    (hname : name ∈ privilegedNames ∧ roleFor name = role) (hvisibility : visibility ≠ .isInternal) :
    Privileged c (privileged name visibility g params body) where
  name_mem := hname.1
  eq := ⟨visibility, g, hvisibility, by rwa [← hname.2] at hg, rfl⟩

theorem headWords (h : Privileged c f) : ∃ (visibility : Visibility) (g : Guard),
    visibility ≠ .isInternal ∧ guard c.accessControl (roleFor f.name) = some g ∧
      f.headWords = visibility.render :: g.words := by
  obtain ⟨visibility, g, hvisibility, hg, heq⟩ := h.eq
  refine ⟨visibility, g, hvisibility, hg, ?_⟩
  rw [heq, headWords_privileged]

theorem opens (h : Privileged c f) : Opens f.headWords := by
  obtain ⟨visibility, g, hvisibility, hg, hwords⟩ := h.headWords
  have hsubset := words_guard_subset hg (roleFor_mem f.name)
  have hview : "view" ∉ guardVocabulary ∧ "pure" ∉ guardVocabulary := by decide
  rw [hwords, Opens]
  simp only [List.mem_cons, not_or]
  cases visibility with
  | isInternal => exact absurd rfl hvisibility
  | isPublic | isExternal =>
    exact ⟨by simp [Visibility.render], ⟨by decide, fun h => hview.1 (hsubset h)⟩,
      ⟨by decide, fun h => hview.2 (hsubset h)⟩⟩

/-- Behind the parameters of the function stand its visibility and its guard. -/
theorem behindBrackets (h : Privileged c f) (hspelled : f.isSpelled = true) :
    ∃ visibility ∈ ["public", "external"], ∃ guard,
      guardText c.accessControl (roleFor f.name) = some guard ∧
        behindBrackets f.render = " " ++ visibility ++ " " ++ guard ++ " " := by
  obtain ⟨visibility, g, hvisibility, hg, heq⟩ := h.eq
  refine ⟨visibility.render, ?_, g.render, ?_, ?_⟩
  · cases visibility with
    | isInternal => exact absurd rfl hvisibility
    | isPublic | isExternal => simp [Visibility.render]
  · rw [guardText_eq, hg]
    rfl
  · rw [Function.behindBrackets_render hspelled, heq, qualifiers_privileged]
    simp [String.append_assoc]

/-- Only the role that the function is for is asked for. -/
theorem infix_headWords_iff (h : Privileged c f) {role : String} :
    ["onlyRole", role] <:+: f.headWords ↔ c.accessControl = .roles ∧ role = roleFor f.name := by
  obtain ⟨visibility, g, -, hg, hwords⟩ := h.headWords
  -- the visibility is no guard, so that the pair can only stand behind it
  have hne : "onlyRole" ≠ visibility.render := by
    cases visibility <;> decide
  rw [hwords]
  cases haccess : c.accessControl with
  | none =>
    rw [haccess] at hg
    cases hg
  | ownable | manager | roles =>
    rw [haccess] at hg
    cases hg
    simp [Guard.words, List.infix_cons_iff, hne]

end Privileged

/-! ## The functions of a token -/

theorem headWords_hookFunction (c : TokenConfig) :
    (hookFunction c).headWords = ["internal", "override"] ∨
      (hookFunction c).headWords = ["internal", "override", "ERC20", "ERC20Capped"] := by
  cases hcap : c.has .cap <;> simp [Function.headWords, hookFunction, hcap, Base.name,
    Visibility.render]

/-- A function of a token either has a privilege and its guard, or it is no way from outside to
change the state. -/
theorem Emits.privileged_or {f : Function} (h : Emits c f) :
    Privileged c f ∨ f.name ∉ privilegedNames ∧ ¬ Opens f.headWords ∧ "onlyRole" ∉ f.headWords := by
  cases h with
  | decimals =>
    have hwords : (decimalsOverride c.decimals).headWords =
        ["public", "pure", "override", "returns", "uint8"] := rfl
    have hname : "decimals" ∉ privilegedNames := by decide
    rw [hwords]
    exact .inr ⟨hname, by decide⟩
  | mint _ hg => exact .inl (.of_guard hg (by decide) (by decide))
  | pausing _ hg hf =>
    simp only [pauseFunctions, List.mem_cons, List.not_mem_nil, or_false] at hf
    rcases hf with rfl | rfl
    · exact .inl (.of_guard hg (by decide) (by decide))
    · exact .inl (.of_guard hg (by decide) (by decide))
  | setAntiWhaleLimits _ hg => exact .inl (.of_guard hg (by decide) (by decide))
  | setTradingCooldown _ hg => exact .inl (.of_guard hg (by decide) (by decide))
  | setBlacklisted _ hg => exact .inl (.of_guard hg (by decide) (by decide))
  | isBlacklisted => exact .inr (by decide)
  | setAllowlisted _ hg => exact .inl (.of_guard hg (by decide) (by decide))
  | setAllowlistEnabled _ hg => exact .inl (.of_guard hg (by decide) (by decide))
  | isAllowlisted => exact .inr (by decide)
  | hook =>
    have hname : (hookFunction c).name ∉ privilegedNames := by
      change "_update" ∉ privilegedNames
      decide
    refine .inr ⟨hname, ?_⟩
    rcases headWords_hookFunction c with hwords | hwords <;> rw [hwords] <;> decide

theorem Emits.opens_iff {f : Function} (h : Emits c f) :
    Opens f.headWords ↔ f.name ∈ privilegedNames := by
  rcases h.privileged_or with hf | ⟨hname, hopens, -⟩
  · exact iff_of_true hf.opens hf.name_mem
  · exact iff_of_false hopens hname

/-- A function of privilege is one that asks for its guard. -/
theorem Emits.privileged {f : Function} (h : Emits c f) (hname : f.name ∈ privilegedNames) :
    Privileged c f :=
  h.privileged_or.resolve_right fun hnot => hnot.1 hname

theorem mutates_render {f : Function} (h : Emits c f) : Mutates f.render ↔ Opens f.headWords := by
  rw [Mutates, qualifierWords, Function.identifiers_behindBrackets h.isSpelled]

theorem guardedBy_render {f : Function} {role : String} (h : Emits c f) :
    GuardedBy role f.render ↔ ["onlyRole", role] <:+: f.headWords := by
  rw [GuardedBy, qualifierWords, Function.identifiers_behindBrackets h.isSpelled]

/-- What holds of the text of every function that is emitted holds of every block. -/
theorem forall_mem_functions {p : String → Prop} (h : ∀ f, Emits c f → p f.render) :
    ∀ block ∈ c.sourceUnit.functions, p block := by
  have hunit : c.sourceUnit.functions = (functions c).map Function.render := rfl
  rw [hunit, List.forall_mem_map]
  exact fun f hf => h f (mem_functions_iff.mp hf)

/-! ## Names -/

theorem pausing_mem_names {name : String} (h : name = "pause" ∨ name = "unpause") :
    name ∈ (functions c).map Function.name ↔ c.has .pause = true ∧ c.accessControl ≠ .none := by
  rcases h with rfl | rfl <;> simp [names_functions, names_securityFunctions]

theorem setter_mem_names (hd : d.Accepted c) {f : SecurityFunction} {name : String}
    (h : name ∈ setters f) : name ∈ (functions c).map Function.name ↔
      c.hasSecurity f = true ∧ c.accessControl ≠ .none := by
  rw [names_functions, names_securityFunctions, hd.isSome_antiWhale, hd.isSome_tradingCooldown]
  cases f with
  | antiWhale | antiBot | blacklist =>
    obtain rfl := List.mem_singleton.mp h
    simp
  | allowlist =>
    simp only [setters, List.mem_cons, List.not_mem_nil, or_false] at h
    rcases h with rfl | rfl <;> simp

/-! ## Roles -/

/-- A role that a function is for is one that the token has. -/
theorem roleFor_mem_roles {f : Function} (hf : Emits c f) (haccess : c.accessControl = .roles) :
    roleFor f.name ∈ adminRole :: roles c := by
  have hname : f.name ∈ (functions c).map Function.name :=
    List.mem_map_of_mem (mem_functions_iff.mpr hf)
  rw [roleFor, List.mem_cons]
  split
  · rename_i hmint
    rw [hmint, mint_mem_names] at hname
    exact .inr (mem_roles_iff.mpr ⟨haccess, .inl ⟨hname.1, rfl⟩⟩)
  · split
    · rename_i hpause
      exact .inr (mem_roles_iff.mpr ⟨haccess, .inr ⟨((pausing_mem_names hpause).mp hname).1, rfl⟩⟩)
    · exact .inl rfl

theorem needs_roleFor {name : String} (haccess : c.accessControl = .roles)
    (hname : name ∈ (functions c).map Function.name) (hprivileged : name ∈ privilegedNames) :
    c.sourceUnit.Needs (roleFor name) := by
  obtain ⟨f, hf, rfl⟩ := List.mem_map.mp hname
  have hemits := mem_functions_iff.mp hf
  refine .inr ⟨f.render, List.mem_map_of_mem hf, (guardedBy_render hemits).mpr ?_⟩
  exact (hemits.privileged hprivileged).infix_headWords_iff.mpr ⟨haccess, rfl⟩

/-- The roles that are needed are those that the token has. -/
theorem needs_iff {role : String} (haccess : c.accessControl = .roles) :
    c.sourceUnit.Needs role ↔ role ∈ adminRole :: roles c := by
  have hnone : c.accessControl ≠ .none := by
    rw [haccess]
    decide
  constructor
  · rintro (rfl | ⟨block, hblock, hguard⟩)
    · exact List.mem_cons_self
    · -- a block that asks for a role is of a privileged function, and that has one role only
      revert block
      refine forall_mem_functions fun f hf hguard => ?_
      rw [guardedBy_render hf] at hguard
      rcases hf.privileged_or with hprivileged | ⟨-, -, hwords⟩
      · rw [(hprivileged.infix_headWords_iff.mp hguard).2]
        exact roleFor_mem_roles hf haccess
      · exact absurd (hguard.subset List.mem_cons_self) hwords
  · intro hrole
    rcases List.mem_cons.mp hrole with rfl | hrole
    · exact .inl rfl
    · rcases (mem_roles_iff.mp hrole).2 with ⟨hmint, rfl⟩ | ⟨hpause, rfl⟩
      · exact needs_roleFor haccess (mint_mem_names.mpr ⟨hmint, hnone⟩) (by decide)
      · exact needs_roleFor haccess ((pausing_mem_names (.inl rfl)).mpr ⟨hpause, hnone⟩) (by decide)

/-! ## Grants -/

theorem render_grant (role : String) : (grant role).render = grantText role := by
  have hend : ", " ++ "msg.sender" ++ ")" ++ ";" = ", msg.sender);" := by decide
  rw [grantText, ← hend]
  simp [grant, sender, Statement.render, Statement.lines, Expression.render, Expression.renderAll,
    String.append_assoc]

theorem mint_cons_statements (c : TokenConfig) : ∃ rest, c.sourceUnit.statements = mintText :: rest ∧
    (c.accessControl = .roles → ∀ role ∈ adminRole :: roles c, grantText role ∈ rest) := by
  have hunit : c.sourceUnit.statements = (statements c).map Statement.render := rfl
  have hmint : (mintTo sender (.name "initialSupply")).render = mintText := by decide
  rw [hunit, statements, List.cons_append, List.map_cons, hmint]
  refine ⟨_, rfl, fun haccess role hrole => ?_⟩
  rw [if_pos haccess, List.map_append, ← render_grant]
  exact List.mem_append_left _ (List.mem_map_of_mem (List.mem_map_of_mem hrole))

/-- A statement of the constructor that speaks of grants is one. -/
theorem grants_of_mem {s : String} (hs : s ∈ c.sourceUnit.statements)
    (hgrant : "_grantRole" ∈ identifiers s) :
    c.accessControl = .roles ∧ ∃ role ∈ adminRole :: roles c, s = grantText role := by
  have hunit : c.sourceUnit.statements = (statements c).map Statement.render := rfl
  have hmint : "_grantRole" ∉ (mintTo sender (.name "initialSupply")).words := by decide
  have hallow : "_grantRole" ∉ (Statement.assign (.entry "_allowlisted" (.call "_msgSender" []))
      (.name "true")).words := by
    decide
  rw [hunit] at hs
  obtain ⟨t, ht, rfl⟩ := List.mem_map.mp hs
  rw [(Statement.spells_render (isSpelled_statements c t ht)).identifiers] at hgrant
  simp only [statements, List.cons_append, List.mem_cons, List.mem_append, mem_ite_nil,
    List.mem_map, List.not_mem_nil, or_false] at ht
  rcases ht with rfl | ⟨haccess, role, hrole, rfl⟩ | ⟨-, rfl⟩
  · exact absurd hgrant hmint
  · exact ⟨haccess, role, List.mem_cons.mpr hrole, render_grant role⟩
  · exact absurd hgrant hallow

theorem grants_notMem_initializers (c : TokenConfig) :
    ∀ s ∈ c.sourceUnit.initializers, "_grantRole" ∉ identifiers s := by
  have hunit : c.sourceUnit.initializers = (initializers c).map Initializer.render := rfl
  have herc20 : "_grantRole" ∉
      Base.erc20.name :: Expression.wordsAll [.name "name_", .name "symbol_"] := by
    decide
  have haccess (access : AccessControl) : ∀ i ∈ accessInitializer access,
      "_grantRole" ∉ i.base :: Expression.wordsAll i.args := by
    cases access <;> decide
  have hcapped (cap : Amount) : "_grantRole" ∉
      Base.capped.name :: Expression.wordsAll [.number cap.baseUnits] := by
    have hwords : Expression.wordsAll [.number cap.baseUnits] = [] := rfl
    rw [hwords]
    decide
  have hwords : ∀ i ∈ initializers c, "_grantRole" ∉ i.base :: Expression.wordsAll i.args := by
    simp only [initializers, List.cons_append, List.forall_mem_cons, List.forall_mem_append,
      List.forall_mem_map]
    exact ⟨herc20, haccess c.accessControl, fun cap _ => hcapped cap⟩
  rw [hunit, List.forall_mem_map]
  intro i hi
  rw [(spells_initializers c i hi).identifiers]
  exact hwords i hi

/-- The statements of a hook with every guard. -/
def hookStatements : List Statement :=
  [bypass, requireRunning, requireNotBlacklisted, requireAllowlisted, passOn,
    .when (.binary .and (isNotZero "from") (isNotZero "to")) [requireLimits, requireCooldown]]

theorem words_hookBody_subset (c : TokenConfig) :
    Statement.wordsAll (hookBody c) ⊆ Statement.wordsAll hookStatements := by
  intro w hw
  obtain ⟨s, hs, hw⟩ := Statement.mem_wordsAll.mp hw
  rcases mem_hookBody hs with hs | hs
  · refine Statement.mem_wordsAll.mpr ⟨s, ?_, hw⟩
    simp only [hookStatements, List.mem_cons, List.not_mem_nil, or_false] at hs ⊢
    tauto
  · obtain ⟨guards, rfl, hguards⟩ := mem_betweenHolders hs
    have hsubset : Statement.wordsAll guards ⊆
        Statement.wordsAll [requireLimits, requireCooldown] := by
      intro w hw
      obtain ⟨t, ht, hw⟩ := Statement.mem_wordsAll.mp hw
      exact Statement.mem_wordsAll.mpr ⟨t, by simpa using hguards t ht, hw⟩
    have hmem : Statement.when (.binary .and (isNotZero "from") (isNotZero "to"))
        [requireLimits, requireCooldown] ∈ hookStatements := by
      simp [hookStatements]
    refine Statement.mem_wordsAll.mpr ⟨_, hmem, ?_⟩
    rw [Statement.words, List.mem_append] at hw ⊢
    exact hw.imp_right (@hsubset w)

theorem grants_notMem_privileged {name role : String} {visibility : Visibility} {g : Guard}
    {params : List Parameter} {body : List Statement} (hg : guard c.accessControl role = some g)
    (hrole : role ∈ guardVocabulary)
    (h : "_grantRole" ∉ name :: params.flatMap Parameter.words ++ Statement.wordsAll body) :
    "_grantRole" ∉ (privileged name visibility g params body).words := by
  have hguard : "_grantRole" ∉ g.words := fun hmem =>
    absurd (words_guard_subset hg hrole hmem) (by decide)
  have hvisibility : "_grantRole" ≠ visibility.render := by
    cases visibility <;> decide
  have hfunction : "_grantRole" ≠ "function" := by decide
  rw [Function.words, headWords_privileged]
  simp only [privileged, List.cons_append, List.mem_cons, List.mem_append, not_or] at h ⊢
  exact ⟨hfunction, h.1, ⟨h.2.1, hvisibility, hguard⟩, h.2.2⟩

theorem Emits.grants_notMem {f : Function} (h : Emits c f) : "_grantRole" ∉ f.words := by
  have hminter : minterRole ∈ guardVocabulary := by decide
  have hpauser : pauserRole ∈ guardVocabulary := by decide
  have hadmin : adminRole ∈ guardVocabulary := by decide
  cases h with
  | decimals =>
    have hwords : (decimalsOverride c.decimals).words =
        ["function", "decimals", "public", "pure", "override", "returns", "uint8", "return"] := rfl
    rw [hwords]
    decide
  | mint _ hg => exact grants_notMem_privileged hg hminter (by decide)
  | pausing _ hg hf =>
    simp only [pauseFunctions, List.mem_cons, List.not_mem_nil, or_false] at hf
    rcases hf with rfl | rfl
    · exact grants_notMem_privileged hg hpauser (by decide)
    · exact grants_notMem_privileged hg hpauser (by decide)
  | setAntiWhaleLimits _ hg => exact grants_notMem_privileged hg hadmin (by decide)
  | setTradingCooldown _ hg => exact grants_notMem_privileged hg hadmin (by decide)
  | setBlacklisted _ hg => exact grants_notMem_privileged hg hadmin (by decide)
  | isBlacklisted => decide
  | setAllowlisted _ hg => exact grants_notMem_privileged hg hadmin (by decide)
  | setAllowlistEnabled _ hg => exact grants_notMem_privileged hg hadmin (by decide)
  | isAllowlisted => decide
  | hook =>
    have hhead : "_grantRole" ∉ (hookFunction c).headWords := by
      rcases headWords_hookFunction c with hwords | hwords <;> rw [hwords] <;> decide
    have hbody : "_grantRole" ∉ Statement.wordsAll (hookBody c) := fun hmem =>
      absurd (words_hookBody_subset c hmem) (by decide)
    have hfront : "_grantRole" ∉ "function" :: "_update" :: hookParamWords := by decide
    rw [Function.words, words_hookParams, List.mem_append, List.mem_append, not_or, not_or]
    exact ⟨⟨hfront, hhead⟩, hbody⟩

/-! ## The source of an accepted draft -/

theorem safeguarded (hd : d.Accepted c) : c.sourceUnit.Safeguarded c where
  guarded := by
    refine forall_mem_functions fun f hf hmutates => ?_
    rw [mutates_render hf, hf.opens_iff] at hmutates
    rw [Function.blockName_render hf.isSpelled]
    exact (hf.privileged hmutates).behindBrackets hf.isSpelled
  mutates_iff := by
    refine forall_mem_functions fun f hf => ?_
    rw [mutates_render hf, hf.opens_iff, Function.blockName_render hf.isSpelled]
  not_mutates := by
    intro haccess
    refine forall_mem_functions fun f hf hmutates => ?_
    rw [mutates_render hf, hf.opens_iff] at hmutates
    obtain ⟨visibility, g, -, hg, -⟩ := (hf.privileged hmutates).eq
    rw [haccess] at hg
    cases hg
  mint := by
    intro haccess
    rw [functionNames_sourceUnit, mint_mem_names, and_iff_left haccess, TokenConfig.has,
      List.contains_iff_mem]
  pause := by
    intro haccess
    rw [functionNames_sourceUnit, pausing_mem_names (.inl rfl), and_iff_left haccess,
      TokenConfig.has, List.contains_iff_mem]
  unpause := by
    intro haccess
    rw [functionNames_sourceUnit, pausing_mem_names (.inr rfl), and_iff_left haccess,
      TokenConfig.has, List.contains_iff_mem]
  setters := by
    intro haccess f name hname
    rw [functionNames_sourceUnit, setter_mem_names hd hname, and_iff_left haccess,
      TokenConfig.hasSecurity, List.contains_iff_mem]
  granted := by
    obtain ⟨rest, hrest, hgranted⟩ := mint_cons_statements c
    exact ⟨rest, hrest, fun haccess role hrole =>
      hgranted haccess role ((needs_iff haccess).mp hrole)⟩
  grants := by
    intro s hs hgrant
    obtain ⟨haccess, role, hrole, heq⟩ := grants_of_mem hs hgrant
    exact ⟨haccess, role, (needs_iff haccess).mpr hrole, heq⟩
  grants_notMem := by
    rw [List.forall_mem_append]
    refine ⟨grants_notMem_initializers c, forall_mem_functions fun f hf => ?_⟩
    rw [Function.identifiers_render hf.isSpelled]
    exact hf.grants_notMem

end Synthesis

open Synthesis

/-- The source of an accepted draft is open to those who have a privilege, and to no others. -/
theorem safeguarded_of_validate {d : Draft} {c : TokenConfig} (h : d.validate = .ok c) :
    c.sourceUnit.Safeguarded c :=
  safeguarded (Draft.validate_eq_ok_iff.mp h)

/-- The guards of all kinds of functions and the roles of their callers, in one token. -/
theorem safeguarded_fullDraft : ∃ c, fullDraft.validate = .ok c ∧ c.accessControl = .roles ∧
    c.sourceUnit.Safeguarded c ∧
      ∀ name ∈ ["mint", "pause", "setAllowlistEnabled"], name ∈ c.sourceUnit.functionNames := by
  have hchosen : fullDraft.validate.toOption.any (fun c =>
      decide (c.accessControl = .roles ∧ .mint ∈ c.standardFunctions ∧
        .pause ∈ c.standardFunctions ∧ .allowlist ∈ c.securityFunctions)) = true := by
    decide +kernel
  obtain ⟨c, hc, hp⟩ := Draft.exists_of_validate hchosen
  obtain ⟨haccess, hmint, hpause, hallow⟩ := of_decide_eq_true hp
  have hsafe := safeguarded_of_validate hc
  have hnone : c.accessControl ≠ .none := by
    rw [haccess]
    decide
  refine ⟨c, hc, haccess, hsafe, ?_⟩
  simp only [List.forall_mem_cons]
  exact ⟨(hsafe.mint hnone).mpr hmint, (hsafe.pause hnone).mpr hpause,
    (hsafe.setters hnone .allowlist _ (by decide)).mpr hallow, by simp⟩

end TokenLaunch
