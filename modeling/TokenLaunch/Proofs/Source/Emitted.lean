import TokenLaunch.Proofs.Functions
import TokenLaunch.Proofs.Source.Layout

/-!
# The lines of a generated source

The atoms of a generated contract are neat texts on one line, and so its source splits into exactly
the lines of its state, its constructor and its functions.
-/

namespace TokenLaunch.Synthesis

open Text Solidity SourceUnit

variable {c : TokenConfig} {f : Function}

/-! ## Functions -/

theorem atoms_guard {access : AccessControl} {role : String} {g : Guard}
    (h : guard access role = some g) : ∀ a ∈ g.atoms, a = role := by
  cases access with
  | none => cases h
  | ownable | manager | roles =>
    cases h
    simp [Guard.atoms]

theorem neat_privileged {name : String} {visibility : Visibility} {access : AccessControl}
    {role : String} {g : Guard} {params : List Parameter} {body : List Statement}
    (hg : guard access role = some g) (hrole : Neat role)
    (h : ∀ a ∈ name :: params.map (·.name) ++ Statement.atomsAll body, Neat a) :
    ∀ a ∈ (privileged name visibility g params body).atoms, Neat a := by
  simp only [List.forall_mem_append, List.cons_append, List.forall_mem_cons] at h
  obtain ⟨hname, hparams, hbody⟩ := h
  simp only [Function.atoms, privileged, Option.toList_some, Option.toList_none,
    List.flatMap_singleton, List.flatten_nil, List.append_nil, List.cons_append,
    List.forall_mem_cons, List.forall_mem_append]
  refine ⟨hname, ⟨hparams, fun a ha => ?_⟩, hbody⟩
  rw [atoms_guard hg a ha]
  exact hrole

/-- The statements that a hook is made of, apart from those between two holders. -/
theorem mem_hookBody {s : Statement} (h : s ∈ hookBody c) :
    s ∈ [bypass, requireRunning, requireNotBlacklisted, requireAllowlisted, passOn] ∨
      s ∈ betweenHolders c := by
  simp only [hookBody, List.mem_append, mem_ite_nil, List.mem_singleton] at h
  simp only [List.mem_cons, List.not_mem_nil, or_false]
  tauto

theorem mem_betweenHolders {s : Statement} (h : s ∈ betweenHolders c) :
    ∃ guards, s = .when (.binary .and (isNotZero "from") (isNotZero "to")) guards ∧
      ∀ t ∈ guards, t = requireLimits ∨ t = requireCooldown := by
  unfold betweenHolders at h
  extract_lets guards at h
  split at h
  · cases h
  · refine ⟨guards, List.mem_singleton.mp h, fun t ht => ?_⟩
    simp only [guards, List.mem_append, mem_ite_nil, List.mem_singleton] at ht
    exact ht.imp And.right And.right

theorem neat_hookBody (c : TokenConfig) :
    ∀ a ∈ Statement.atomsAll (hookBody c), Neat a := by
  have hfixed : ∀ s ∈ [bypass, requireRunning, requireNotBlacklisted, requireAllowlisted, passOn],
      ∀ a ∈ s.atoms, Neat a := by
    decide
  have hcondition : ∀ a ∈ (Expression.binary .and (isNotZero "from") (isNotZero "to")).atoms,
      Neat a := by
    decide
  have hlimits : ∀ a ∈ requireLimits.atoms, Neat a := by decide
  have hcooldown : ∀ a ∈ requireCooldown.atoms, Neat a := by decide
  intro a ha
  obtain ⟨s, hs, ha⟩ := Statement.mem_atomsAll.mp ha
  rcases mem_hookBody hs with hs | hs
  · exact hfixed s hs a ha
  · obtain ⟨guards, rfl, hguards⟩ := mem_betweenHolders hs
    rw [Statement.atoms, List.mem_append] at ha
    rcases ha with ha | ha
    · exact hcondition a ha
    · obtain ⟨t, ht, ha⟩ := Statement.mem_atomsAll.mp ha
      rcases hguards t ht with rfl | rfl
      · exact hlimits a ha
      · exact hcooldown a ha

theorem Emits.neat_atoms (h : Emits c f) : ∀ a ∈ f.atoms, Neat a := by
  have hminter : Neat minterRole := by decide
  have hpauser : Neat pauserRole := by decide
  have hadmin : Neat adminRole := by decide
  cases h with
  | decimals =>
    have hname : Neat "decimals" := by decide
    simpa [decimalsOverride, Function.atoms, Statement.atomsAll, Statement.atoms,
      Expression.atoms] using hname
  | mint _ hg => exact neat_privileged hg hminter (by decide)
  | pausing _ hg hf =>
    simp only [pauseFunctions, List.mem_cons, List.not_mem_nil, or_false] at hf
    rcases hf with rfl | rfl
    · exact neat_privileged hg hpauser (by decide)
    · exact neat_privileged hg hpauser (by decide)
  | setAntiWhaleLimits _ hg => exact neat_privileged hg hadmin (by decide)
  | setTradingCooldown _ hg => exact neat_privileged hg hadmin (by decide)
  | setBlacklisted _ hg => exact neat_privileged hg hadmin (by decide)
  | isBlacklisted => decide
  | setAllowlisted _ hg => exact neat_privileged hg hadmin (by decide)
  | setAllowlistEnabled _ hg => exact neat_privileged hg hadmin (by decide)
  | isAllowlisted => decide
  | hook =>
    have hbases : ∀ a ∈ if c.has .cap then [Base.erc20.name, Base.capped.name] else [],
        Neat a := by
      split <;> decide
    have hname : Neat "_update" := by decide
    have hfrom : Neat "from" := by decide
    have hto : Neat "to" := by decide
    have hvalue : Neat "value" := by decide
    simp only [Function.atoms, hookFunction, List.map_cons, List.map_nil, Option.toList_some,
      Option.toList_none, List.flatMap_nil, List.flatten_singleton, List.append_nil,
      List.cons_append, List.forall_mem_cons, List.forall_mem_append]
    exact ⟨hname, hfrom, hto, hvalue, ⟨by simp, hbases⟩, neat_hookBody c⟩

/-! ## State -/

theorem mem_roles_iff {role : String} : role ∈ roles c ↔ c.accessControl = .roles ∧
    (c.has .mint = true ∧ role = minterRole ∨ c.has .pause = true ∧ role = pauserRole) := by
  simp only [roles, mem_ite_nil, List.mem_append, List.mem_singleton]

theorem mem_roles {role : String} (h : role ∈ roles c) : role = minterRole ∨ role = pauserRole :=
  (mem_roles_iff.mp h).2.imp And.right And.right

/-- The blocks of state of a token, each with what it is there for. -/
inductive Declares (c : TokenConfig) : StateBlock → Prop
  | role {role : String} (h : role ∈ roles c) : Declares c (roleConstant role)
  | antiWhale {w : AntiWhale} (h : c.antiWhale = some w) : Declares c (antiWhaleState w)
  | antiBot {cooldown : Nat} (h : c.tradingCooldown = some cooldown) :
    Declares c (antiBotState cooldown)
  | blacklist (h : c.hasSecurity .blacklist) : Declares c blacklistState
  | allowlist (h : c.hasSecurity .allowlist) : Declares c allowlistState

theorem mem_state_iff {b : StateBlock} : b ∈ state c ↔ Declares c b := by
  simp only [state, List.mem_append, mem_ite_nil, List.mem_map, Option.mem_toList,
    List.mem_singleton]
  constructor
  · rintro ((((⟨role, h, rfl⟩ | ⟨w, h, rfl⟩) | ⟨cooldown, h, rfl⟩) | ⟨h, rfl⟩) | ⟨h, rfl⟩)
    · exact .role h
    · exact .antiWhale h
    · exact .antiBot h
    · exact .blacklist h
    · exact .allowlist h
  · rintro (h | h | h | h | h)
    · exact .inl (.inl (.inl (.inl ⟨_, h, rfl⟩)))
    · exact .inl (.inl (.inl (.inr ⟨_, h, rfl⟩)))
    · exact .inl (.inl (.inr ⟨_, h, rfl⟩))
    · exact .inl (.inr ⟨h, rfl⟩)
    · exact .inr ⟨h, rfl⟩

theorem Declares.ne_nil {b : StateBlock} (h : Declares c b) : b ≠ [] ∧ ∀ ds ∈ b, ds ≠ [] := by
  cases h <;> simp [roleConstant, antiWhaleState, antiBotState, blacklistState, allowlistState]

theorem neat_enabledFlag {name : String} (h : Neat name) :
    ∀ a ∈ (enabledFlag name).atoms, Neat a := by
  have htrue : Neat "true" := by decide
  simpa [enabledFlag, Declaration.atoms, Expression.atoms] using ⟨h, htrue⟩

theorem neat_wordVariable {name : String} (h : Neat name) (value : Nat) :
    ∀ a ∈ (wordVariable name value).atoms, Neat a := by
  simpa [wordVariable, Declaration.atoms, Expression.atoms] using h

theorem Declares.neat_atoms {b : StateBlock} (h : Declares c b) :
    ∀ ds ∈ b, ∀ d ∈ ds, ∀ a ∈ d.atoms, Neat a := by
  cases h with
  | role h =>
    have hminter : ∀ ds ∈ roleConstant minterRole, ∀ d ∈ ds, ∀ a ∈ d.atoms, Neat a := by
      decide
    have hpauser : ∀ ds ∈ roleConstant pauserRole, ∀ d ∈ ds, ∀ a ∈ d.atoms, Neat a := by
      decide
    rcases mem_roles h with rfl | rfl
    · exact hminter
    · exact hpauser
  | antiWhale =>
    simp only [antiWhaleState, List.forall_mem_singleton, List.forall_mem_cons]
    exact ⟨neat_enabledFlag (by decide), neat_wordVariable (by decide) _,
      neat_wordVariable (by decide) _⟩
  | antiBot =>
    have hlast : ∀ a ∈ (privateMapping "_lastTradeTime" (.uint 256)).atoms, Neat a := by
      decide
    simp only [antiBotState, List.forall_mem_singleton, List.forall_mem_cons]
    exact ⟨neat_enabledFlag (by decide), neat_wordVariable (by decide) _,
      hlast⟩
  | blacklist => decide
  | allowlist => decide

/-! ## Construction -/

theorem neat_initializers (c : TokenConfig) : ∀ i ∈ initializers c,
    Neat i.base ∧ ∀ a ∈ Expression.atomsAll i.args, Neat a := by
  have herc20 : Neat Base.erc20.name ∧ Neat "name_" ∧ Neat "symbol_" := by decide
  have hcapped : Neat Base.capped.name := by decide
  have haccess : ∀ access, ∀ i ∈ accessInitializer access,
      Neat i.base ∧ ∀ a ∈ Expression.atomsAll i.args, Neat a := by
    intro access
    cases access <;> decide
  simp only [initializers, List.cons_append, List.forall_mem_cons, List.forall_mem_append,
    List.forall_mem_map]
  refine ⟨?_, haccess c.accessControl, fun cap _ => ?_⟩
  · simpa [Expression.atomsAll, Expression.atoms] using herc20
  · simpa [Expression.atomsAll, Expression.atoms] using hcapped

/-- Each statement of a constructor is one line. -/
theorem phrase_statements (c : TokenConfig) :
    ∀ s ∈ statements c, OneLine s.render ∧ Phrase s.render := by
  have hmint : OneLine (mintTo sender (.name "initialSupply")).render ∧
      Phrase (mintTo sender (.name "initialSupply")).render := by
    decide
  have hallow : ∀ s ∈ [Statement.assign (.entry "_allowlisted" (.call "_msgSender" []))
      (.name "true")], OneLine s.render ∧ Phrase s.render := by
    decide
  have hgrant : ∀ role ∈ [adminRole, minterRole, pauserRole],
      OneLine (grant role).render ∧ Phrase (grant role).render := by
    decide
  simp only [statements, List.cons_append, List.forall_mem_cons, List.forall_mem_append]
  refine ⟨hmint, fun s hs => ?_, fun s hs => ?_⟩
  · rw [mem_ite_nil, List.mem_map] at hs
    obtain ⟨-, role, hrole, rfl⟩ := hs
    rcases List.mem_cons.mp hrole with rfl | hrole
    · exact hgrant _ (by simp)
    · exact hgrant _ (by rcases mem_roles hrole with rfl | rfl <;> simp)
  · rw [mem_ite_nil] at hs
    exact hallow s hs.2

theorem neat_params (c : TokenConfig) : ∀ p ∈ params c, p.name = "" ∨ Neat p.name := by
  have hfixed : ∀ p ∈ ([⟨.string, "name_"⟩, ⟨.string, "symbol_"⟩, ⟨.uint 256, "initialSupply"⟩,
      ⟨.uint 8, ""⟩, ⟨.address, "initialAuthority"⟩] : List Parameter),
      p.name = "" ∨ Neat p.name := by
    decide
  intro p hp
  refine hfixed p ?_
  simp only [params, List.mem_append, mem_ite_nil] at hp
  simp only [List.mem_cons] at hp ⊢
  tauto

theorem Base.neat_name (b : Base) : Neat b.name := by
  cases b <;> decide

theorem Base.neat_importPath (b : Base) : Neat b.importPath := by
  cases b <;> decide

theorem neat_imports (c : TokenConfig) : ∀ path ∈ imports c, Neat path := by
  have hcontext : Neat contextPath := by decide
  simp only [imports, List.forall_mem_append, List.forall_mem_map]
  refine ⟨fun b _ => b.neat_importPath, fun path hpath => ?_⟩
  rw [mem_ite_nil, List.mem_singleton] at hpath
  rw [hpath.2]
  exact hcontext

/-! ## The contract -/

theorem lined_contract (h : IsContractName c.contractName) : c.contract.Lined where
  name := ⟨h.notMem rfl rfl, h.notMem rfl rfl⟩
  imports := fun path hpath => (neat_imports c path hpath).oneLine
  bases := by
    simp only [TokenConfig.contract, List.forall_mem_map]
    exact fun b _ => b.neat_name.oneLine
  params_ne_nil := by simp [TokenConfig.contract, params]
  params := fun p hp => by
    rcases neat_params c p hp with hname | hname
    · rw [hname]
      decide
    · exact hname.oneLine
  initializers := fun i hi =>
    (neat_initializers c i hi).imp Neat.oneLine fun hargs a ha => (hargs a ha).oneLine
  statements := fun s hs => (phrase_statements c s hs).1
  state_ne_nil := fun _ hb => (mem_state_iff.mp hb).ne_nil
  state := fun _ hb ds hds d hd a ha => ((mem_state_iff.mp hb).neat_atoms ds hds d hd a ha).oneLine
  functions := fun _ hf a ha => ((mem_functions_iff.mp hf).neat_atoms a ha).oneLine

theorem arranged_contract (h : IsContractName c.contractName) : c.contract.Arranged where
  name := bare_of_isAlphanum fun _ hx => h.isAlphanum hx
  imports := fun path hpath => (neat_imports c path hpath).bare
  bases := by
    simp only [TokenConfig.contract, List.forall_mem_map]
    exact fun b _ => b.neat_name.bare
  params := neat_params c
  initializers := neat_initializers c
  statements := fun s hs => (phrase_statements c s hs).2
  state := fun _ hb => (mem_state_iff.mp hb).neat_atoms
  functions := fun _ hf => (mem_functions_iff.mp hf).neat_atoms

theorem pieces_source (h : IsContractName c.contractName) :
    pieces c.source = c.contract.sourceLines :=
  (lined_contract h).pieces_render

end TokenLaunch.Synthesis
