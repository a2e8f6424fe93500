import Mathlib.Data.List.Nodup
import TokenLaunch.Proofs.Ledger.Declared
import TokenLaunch.Proofs.Source.Heads
import TokenLaunch.Proofs.Source.Identity

/-!
# The sections of a generated source

What the sections of a source unit show: the files that are imported, the bases whose constructors
are called, the names that the state declares and those of the functions.  For a generated contract
they are those of its bases, its declarations and its functions.
-/

namespace TokenLaunch

open Text

/-! ## What a source unit shows -/

namespace SourceUnit

/-- The names that words of state declare: each stands behind the visibility of a variable or behind
the word for an event, and perhaps behind the word for a constant. -/
def declaredIn : List String → List String
  | [] => []
  | w :: ws =>
    (if w ∈ ["public", "private", "event"] then (ws.dropWhile (· = "constant")).take 1 else [])
      ++ declaredIn ws

/-- The names that the state declares, as often as it does. -/
def declared (u : SourceUnit) : List String := u.state.flatMap fun b => declaredIn (identifiers b)

/-- The names of the functions, in their order. -/
def functionNames (u : SourceUnit) : List String := u.functions.map blockName

/-- The words of the constructor behind its parameters. -/
def constructorWords (u : SourceUnit) : List String :=
  (u.initializers ++ u.statements).flatMap identifiers

/-- The words of all functions. -/
def functionWords (u : SourceUnit) : List String := u.functions.flatMap identifiers

/-- The words of the parameters of the constructor. -/
def paramWords (u : SourceUnit) : List String := u.params.flatMap identifiers

/-- A path that leads to the file of a contract. -/
def LeadsTo (path name : String) : Prop := ("/" ++ name ++ ".sol").toList <:+ path.toList

instance (path name : String) : Decidable (LeadsTo path name) :=
  inferInstanceAs (Decidable (_ <:+ _))

/-- The contract whose constructor an initializer calls. -/
def callee (initializer : String) : String := (identifiers initializer).headD ""

/-- The bases whose constructors take arguments. -/
def initializedBases : List String := ["ERC20", "Ownable", "AccessManaged", "ERC20Capped"]

end SourceUnit

open SourceUnit Solidity

/-! ## State -/

namespace Synthesis

variable {c : TokenConfig}

theorem declaredIn_words {b : StateBlock} (h : Declares c b) :
    declaredIn (b.flatMap fun ds => ds.flatMap Declaration.words) = blockNames b := by
  cases h with
  | role h => rcases mem_roles h with rfl | rfl <;> rfl
  | antiWhale | antiBot | blacklist | allowlist => rfl

/-- The names that a source unit shows as declared are those of the declarations. -/
theorem declared_sourceUnit (c : TokenConfig) :
    c.sourceUnit.declared = c.contract.declarations.map Declaration.name := by
  have hunit : c.sourceUnit.state = (state c).map StateBlock.render := rfl
  rw [map_name_declarations, declared, hunit, List.flatMap_map]
  refine List.flatMap_congr fun b hb => ?_
  have hdeclares := mem_state_iff.mp hb
  rw [(StateBlock.spells_render hdeclares.isSpelled).identifiers, declaredIn_words hdeclares]

theorem count_declared {b : StateBlock} {name : String} (h : Declares c b)
    (hname : name ∈ blockNames b) : c.sourceUnit.declared.count name = 1 := by
  rw [declared_sourceUnit]
  refine List.count_eq_one_of_mem (nodup_declarations c) ?_
  rw [map_name_declarations]
  exact List.mem_flatMap.mpr ⟨b, mem_state_iff.mpr h, hname⟩

/-! ## Functions -/

theorem functionNames_sourceUnit (c : TokenConfig) :
    c.sourceUnit.functionNames = (functions c).map Function.name := by
  have hunit : c.sourceUnit.functions = (functions c).map Function.render := rfl
  rw [SourceUnit.functionNames, hunit, List.map_map]
  exact List.map_congr_left fun f hf => Function.blockName_render (mem_functions_iff.mp hf).isSpelled

/-! ## Bases -/

theorem bases_sublist (c : TokenConfig) : (bases c).Sublist
    [.erc20, .ownable, .accessControl, .accessManaged, .burnable, .pausable, .capped] := by
  have haccess : (accessBase c.accessControl).toList.Sublist
      [.ownable, .accessControl, .accessManaged] := by
    cases c.accessControl <;> decide
  have hite {p : Prop} [Decidable p] (b : Base) : (if p then [b] else []).Sublist [b] :=
    ite_sublist (List.Sublist.refl _)
  have hburn := hite (p := c.has .burn = true) .burnable
  have hpause := hite (p := c.has .pause = true) .pausable
  have hcap := hite (p := c.maxSupply.isSome = true) .capped
  exact (((haccess.cons_cons .erc20).append hburn).append hpause).append hcap

theorem nodup_bases (c : TokenConfig) : (bases c).Nodup := by
  have hnodup : [Base.erc20, .ownable, .accessControl, .accessManaged, .burnable, .pausable,
      .capped].Nodup := by
    decide
  exact hnodup.sublist (bases_sublist c)

/-- A path leads to the file that it names behind its last slash, and to no other. -/
theorem leadsTo_importPath_iff {folder name name' : String}
    (hfolder : folder.toList.getLast? = some '/') (hname : '/' ∉ name.toList)
    (hname' : '/' ∉ name'.toList) : LeadsTo (importPath folder name) name' ↔ name = name' := by
  have hsol : '/' ∉ ".sol".toList := by decide
  have hfile {s : String} (hs : '/' ∉ s.toList) : '/' ∉ (s.toList ++ ".sol".toList).reverse := by
    rw [List.mem_reverse, List.mem_append, not_or]
    exact ⟨hs, hsol⟩
  obtain ⟨pre, hpre⟩ := List.getLast?_eq_some_iff.mp hfolder
  have hpath : (importPath folder name).toList =
      "@openzeppelin/contracts/".toList ++ pre ++ '/' :: (name.toList ++ ".sol".toList) := by
    unfold importPath
    generalize "@openzeppelin/contracts/" = root
    simp only [String.toList_append, hpre, List.append_assoc, List.cons_append, List.nil_append]
  have hone : "/".toList = ['/'] := rfl
  have hslash : ("/" ++ name' ++ ".sol").toList = '/' :: (name'.toList ++ ".sol".toList) := by
    rw [String.toList_append, String.toList_append, hone]
    rfl
  rw [LeadsTo, hpath, hslash]
  constructor
  · rintro ⟨front, hfront⟩
    -- read backwards, both sides begin with a file name up to the same slash
    have hback := congrArg (fun cs => cs.reverse.takeWhile (· ≠ '/')) hfront
    rw [List.reverse_append, List.reverse_append, List.reverse_cons, List.reverse_cons,
      List.append_assoc, List.append_assoc, List.singleton_append, List.singleton_append,
      takeWhile_ne_append (hfile hname'), takeWhile_ne_append (hfile hname), List.reverse_inj,
      List.append_left_inj, String.toList_inj] at hback
    exact hback.symm
  · rintro rfl
    exact List.suffix_append _ _

theorem slash_notMem_name (b : Base) : '/' ∉ b.name.toList := by cases b <;> decide

theorem leadsTo_base_iff {b b' : Base} : LeadsTo b.importPath b'.name ↔ b = b' := by
  have hfolder : b.folder.toList.getLast? = some '/' := by cases b <;> decide
  rw [Base.importPath, leadsTo_importPath_iff hfolder (slash_notMem_name b) (slash_notMem_name b')]
  exact Base.name_injective.eq_iff

theorem not_leadsTo_contextPath (b : Base) : ¬ LeadsTo contextPath b.name := by
  rw [contextPath, leadsTo_importPath_iff (by decide) (by decide) (slash_notMem_name b)]
  cases b <;> decide

theorem mem_imports_iff {path : String} : path ∈ c.sourceUnit.imports ↔
    (∃ b ∈ bases c, b.importPath = path) ∨ c.isGuarded = true ∧ path = contextPath := by
  have hunit : c.sourceUnit.imports = imports c := rfl
  simp [hunit, imports]

theorem nodup_imports (c : TokenConfig) : c.sourceUnit.imports.Nodup := by
  have hinjective : Function.Injective Base.importPath := fun b b' h =>
    leadsTo_base_iff.mp (h ▸ leadsTo_base_iff.mpr rfl)
  have hcontext : (if c.isGuarded then [contextPath] else []).Nodup := by
    split <;> simp
  refine List.Nodup.append ((nodup_bases c).map hinjective) hcontext ?_
  intro path hpath hmem
  obtain ⟨b, -, rfl⟩ := List.mem_map.mp hpath
  rw [mem_ite_nil, List.mem_singleton] at hmem
  refine not_leadsTo_contextPath b ?_
  rw [← hmem.2]
  exact leadsTo_base_iff.mpr rfl

/-- The bases whose constructors are called are called in the order of inheritance. -/
theorem callees_sourceUnit (c : TokenConfig) :
    c.sourceUnit.initializers.map callee =
      c.sourceUnit.bases.filter (· ∈ initializedBases) := by
  have hunit : c.sourceUnit.initializers = (initializers c).map Initializer.render := rfl
  have hbases : c.sourceUnit.bases = (bases c).map Base.name := rfl
  have hcallees : c.sourceUnit.initializers.map callee = (initializers c).map Initializer.base := by
    rw [hunit, List.map_map]
    refine List.map_congr_left fun i hi => ?_
    rw [Function.comp_apply, callee, (spells_initializers c i hi).identifiers]
    rfl
  have haccess (access : AccessControl) : (accessInitializer access).map Initializer.base =
      ((accessBase access).toList.map Base.name).filter (· ∈ initializedBases) := by
    cases access <;> decide
  have hnone {p : Prop} [Decidable p] {b : Base} (hb : b.name ∉ initializedBases) :
      ((if p then [b] else []).map Base.name).filter (· ∈ initializedBases) = [] := by
    split <;> simp [hb]
  have hcap : (c.maxSupply.toList.map fun cap =>
      (⟨Base.capped.name, [.number cap.baseUnits]⟩ : Initializer)).map Initializer.base =
        ((if c.maxSupply.isSome then [Base.capped] else []).map Base.name).filter
          (· ∈ initializedBases) := by
    cases c.maxSupply <;> rfl
  have herc20 (names : List String) : (Base.erc20.name :: names).filter (· ∈ initializedBases) =
      Base.erc20.name :: names.filter (· ∈ initializedBases) :=
    List.filter_cons_of_pos (by decide)
  rw [hcallees, hbases, initializers, bases]
  simp only [List.map_append, List.map_cons, List.cons_append, herc20, List.filter_append, haccess,
    hcap, hnone (b := .burnable) (by decide), hnone (b := .pausable) (by decide), List.append_nil]

/-! ## Words -/

/-- A block of functions has the words of a function that is emitted. -/
theorem emits_of_mem_sourceUnit (c : TokenConfig) :
    ∀ block ∈ c.sourceUnit.functions, ∃ f, Emits c f ∧ identifiers block = f.words ∧
      identifiers (firstBrackets block) = f.params.flatMap Parameter.words := by
  have hunit : c.sourceUnit.functions = (functions c).map Function.render := rfl
  rw [hunit, List.forall_mem_map]
  intro f hf
  have hf := mem_functions_iff.mp hf
  exact ⟨f, hf, Function.identifiers_render hf.isSpelled,
    Function.identifiers_firstBrackets hf.isSpelled⟩

theorem constructorWords_sourceUnit (c : TokenConfig) : c.sourceUnit.constructorWords =
    ((initializers c).flatMap fun i => i.base :: Expression.wordsAll i.args)
      ++ (statements c).flatMap Statement.words := by
  have hinitializers : c.sourceUnit.initializers = (initializers c).map Initializer.render := rfl
  have hstatements : c.sourceUnit.statements = (statements c).map Statement.render := rfl
  rw [constructorWords, hinitializers, hstatements, List.flatMap_append, List.flatMap_map,
    List.flatMap_map]
  congr 1
  · exact List.flatMap_congr fun i hi => (spells_initializers c i hi).identifiers
  · exact List.flatMap_congr fun s hs =>
      (Statement.spells_render (isSpelled_statements c s hs)).identifiers

theorem paramWords_sourceUnit (c : TokenConfig) :
    c.sourceUnit.paramWords = (params c).flatMap Parameter.words := by
  have hunit : c.sourceUnit.params = (params c).map Parameter.render := rfl
  rw [paramWords, hunit, List.flatMap_map]
  exact List.flatMap_congr fun p hp =>
    (Parameter.spells_render (isSpelled_params c p hp)).identifiers

end Synthesis

/-- A draft with roles, and with every function that there is. -/
def fullDraft : Draft :=
  { cappedDraft with
    accessControl := "roles"
    standardFunctions := ["mint", "burn", "pause", "cap"]
    securityFunctions := ["antiwhale", "antibot", "blacklist", "allowlist"] }

end TokenLaunch
