import TokenLaunch.Proofs.Abi.Arguments
import TokenLaunch.Proofs.Abi.Word
import TokenLaunch.Proofs.Hex
import TokenLaunch.Proofs.Scale

/-!
# The call of the constructor

The values that a launch sends have the types of the constructor that it generates, and their call
data holds each of them at its place.
-/

namespace TokenLaunch

open Text Abi

/-! ## Types -/

theorem types_values (a : ConstructorArgs) : a.values.map Value.ty? =
    [some .string, some .string, some (.uint 256), some (.uint 8)]
      ++ a.authority.toList.map fun _ => some .address := by
  cases h : a.authority <;> simp [ConstructorArgs.values, h, Value.ty?]

namespace Draft.Accepted

variable {d : Draft} {c : TokenConfig}

/-- There is an authority exactly where a manager governs. -/
theorem authority_toList (h : d.Accepted c) :
    (c.accessControl = .manager → ∃ x, c.accessManager = some x ∧ x ≠ 0 ∧
        Address.parse (trim (d.accessManager.getD "")) = .ok x) ∧
      (c.accessControl ≠ .manager → c.accessManager = none) := by
  rcases h.authority with ⟨hno, hnone⟩ | ⟨hyes, x, hsome, hne, hx⟩
  · exact ⟨fun hyes => absurd hyes hno, fun _ => hnone⟩
  · exact ⟨fun _ => ⟨x, hsome, hne, hx⟩, fun hno => absurd hyes hno⟩

theorem types_params (h : d.Accepted c) : c.contract.params.map (some ·.type) =
    (ConstructorArgs.ofConfig c).values.map Value.ty? := by
  rw [types_values]
  rcases h.authority with ⟨hno, hnone⟩ | ⟨hyes, x, hsome, -⟩
  · simp [TokenConfig.contract, Synthesis.params, hno, ConstructorArgs.ofConfig, hnone]
  · simp [TokenConfig.contract, Synthesis.params, hyes, ConstructorArgs.ofConfig, hsome]

theorem acceptsAll (h : d.Accepted c) : Ty.acceptsAll (c.contract.params.map (·.type))
    (ConstructorArgs.ofConfig c).values = true := by
  rcases h.authority with ⟨hno, hnone⟩ | ⟨hyes, x, hsome, -⟩
  · simp [TokenConfig.contract, Synthesis.params, hno, ConstructorArgs.ofConfig, hnone,
      ConstructorArgs.values, Ty.acceptsAll, Ty.accepts]
  · simp [TokenConfig.contract, Synthesis.params, hyes, ConstructorArgs.ofConfig, hsome,
      ConstructorArgs.values, Ty.acceptsAll, Ty.accepts]

end Draft.Accepted

/-! ## Layout -/

namespace ConstructorArgs

/-- The number of words in the head. -/
def headWords (a : ConstructorArgs) : Nat := 4 + a.authority.toList.length

/-- The place of the bytes of the name: behind the head. -/
def namePlace (a : ConstructorArgs) : Nat := 32 * a.headWords

/-- The place of the bytes of the symbol: behind the head and the bytes of the name. -/
def symbolPlace (a : ConstructorArgs) : Nat :=
  32 * (a.headWords + 1 + wordsFor (utf8 a.name).length)

/-- The words in the head. -/
def head (a : ConstructorArgs) : List Nat :=
  [a.namePlace, a.symbolPlace, a.initialSupply, a.decimals] ++ a.authority.toList.map BitVec.toNat

theorem length_head (a : ConstructorArgs) : a.head.length = a.headWords := by
  simp only [head, headWords, List.length_append, List.length_map, List.length_cons,
    List.length_nil]

theorem encodeArguments_values (a : ConstructorArgs) : Abi.encodeArguments a.values =
    a.head.flatMap word ++ (counted (utf8 a.name) ++ counted (utf8 a.symbol)) := by
  have hplace : a.symbolPlace = a.namePlace + (counted (utf8 a.name)).length := by
    rw [symbolPlace, namePlace, length_counted]
    ring
  rw [head, hplace, namePlace, headWords]
  cases h : a.authority with
  | none =>
    simp [values, h, Abi.encodeArguments, Value.parts, Value.encode, Value.isDynamic, assemble,
      heads, Abi.headSize, Part.headSize, Part.tail, length_word]
  | some x =>
    simp [values, h, Abi.encodeArguments, Value.parts, Value.encode, Value.isDynamic, assemble,
      heads, Abi.headSize, Part.headSize, Part.tail, length_word]

/-- Where call data holds the arguments of a constructor. -/
structure CallData (a : ConstructorArgs) (data : List UInt8) : Prop where
  length : data.length =
    32 * (a.headWords + 2 + wordsFor (utf8 a.name).length + wordsFor (utf8 a.symbol).length)
  name_place : wordAt data 0 = a.namePlace
  symbol_place : wordAt data 32 = a.symbolPlace % 2 ^ 256
  initialSupply : wordAt data 64 = a.initialSupply
  decimals : wordAt data 96 = a.decimals
  authority : ∀ x ∈ a.authority, wordAt data 128 = x.toNat
  name : StandsAt data a.namePlace (utf8 a.name)
  symbol : StandsAt data a.symbolPlace (utf8 a.symbol)
  /-- No text has more bytes than a word can count. -/
  texts : data.length < 2 ^ 256 → bytesOf data 0 = utf8 a.name ∧ bytesOf data 32 = utf8 a.symbol

theorem namePlace_lt (a : ConstructorArgs) : a.namePlace < 2 ^ 256 := by
  have hle : a.headWords ≤ 5 := by
    unfold headWords
    cases a.authority <;> simp
  unfold namePlace
  omega

theorem callData_encodeArguments {a : ConstructorArgs} (hsupply : a.initialSupply < 2 ^ 256)
    (hdecimals : a.decimals < 2 ^ 256) : CallData a (Abi.encodeArguments a.values) := by
  rw [encodeArguments_values]
  have hlength : (a.head.flatMap word
      ++ (counted (utf8 a.name) ++ counted (utf8 a.symbol))).length =
      32 * (a.headWords + 2 + wordsFor (utf8 a.name).length + wordsFor (utf8 a.symbol).length) := by
    rw [List.length_append, List.length_append, length_words, length_head, length_counted,
      length_counted]
    ring
  have hname : StandsAt (a.head.flatMap word ++ (counted (utf8 a.name) ++ counted (utf8 a.symbol)))
      a.namePlace (utf8 a.name) := by
    have hplace : (a.head.flatMap word).length = a.namePlace := by
      rw [length_words, length_head, namePlace]
    rw [← hplace]
    exact standsAt_append _ _ _
  have hsymbol : StandsAt (a.head.flatMap word ++ (counted (utf8 a.name)
      ++ counted (utf8 a.symbol))) a.symbolPlace (utf8 a.symbol) := by
    have hplace : (a.head.flatMap word ++ counted (utf8 a.name)).length = a.symbolPlace := by
      rw [List.length_append, length_words, length_head, length_counted, symbolPlace]
      ring
    have happend := standsAt_append (a.head.flatMap word ++ counted (utf8 a.name))
      (utf8 a.symbol) []
    rwa [hplace, List.append_nil, List.append_assoc] at happend
  have hnamePlace := (wordAt_words (show a.head[0]? = some a.namePlace from rfl)
    (counted (utf8 a.name) ++ counted (utf8 a.symbol))).trans (Nat.mod_eq_of_lt a.namePlace_lt)
  have hsymbolPlace := wordAt_words (show a.head[1]? = some a.symbolPlace from rfl)
    (counted (utf8 a.name) ++ counted (utf8 a.symbol))
  refine
    { length := hlength
      name_place := hnamePlace
      symbol_place := hsymbolPlace
      initialSupply := ?_
      decimals := ?_
      authority := fun x hx => ?_
      name := hname
      symbol := hsymbol
      texts := fun hfits => ?_ }
  · exact (wordAt_words (show a.head[2]? = some a.initialSupply from rfl) _).trans
      (Nat.mod_eq_of_lt hsupply)
  · exact (wordAt_words (show a.head[3]? = some a.decimals from rfl) _).trans
      (Nat.mod_eq_of_lt hdecimals)
  · have hlt : x.toNat < 2 ^ 256 := lt_trans x.isLt (by decide)
    have hword : a.head[4]? = some x.toNat := by
      have hsome : a.authority = some x := hx
      simp [head, hsome]
    exact (wordAt_words hword _).trans (Nat.mod_eq_of_lt hlt)
  · have hwords : ∀ n, n ≤ 32 * wordsFor n := by
      intro n
      unfold wordsFor
      omega
    have hn := hwords (utf8 a.name).length
    have hs := hwords (utf8 a.symbol).length
    rw [hlength] at hfits
    have hfitsSymbol : a.symbolPlace < 2 ^ 256 := by
      unfold symbolPlace
      omega
    constructor
    · refine hname.bytesOf_eq ?_ a.namePlace_lt (by omega)
      rw [hnamePlace, Nat.mod_eq_of_lt a.namePlace_lt]
    · exact hsymbol.bytesOf_eq hsymbolPlace hfitsSymbol (by omega)

end ConstructorArgs

/-! ## The call -/

/-- The word that a parameter begins with in the source. -/
def typeWord (param : String) : String := String.ofList (param.toList.takeWhile (· ≠ ' '))

/-- The digits that are sent for a draft: from them every argument is read back. -/
structure EncodedCall (d : Draft) (c : TokenConfig) (hex : String) : Prop where
  digits : ∀ x ∈ hex.toList, Hex.IsDigit x
  length : hex.toList.length = 64 * (4 + (if c.accessControl = .manager then 1 else 0) + 2
    + wordsFor (utf8 (trim d.tokenName)).length + wordsFor (utf8 (trim d.tokenSymbol)).length)
  arguments : ∃ data supply, Hex.decode? hex.toList = some data ∧
    Scaled d.initialSupply c.decimals supply ∧
    ConstructorArgs.CallData
      ⟨trim d.tokenName, trim d.tokenSymbol, supply, c.decimals, c.accessManager⟩ data

/-- The constructor of a generated contract takes what a launch sends to it. -/
structure ConstructorCall (d : Draft) (c : TokenConfig) : Prop where
  params : c.contract.params.map (·.type) = [.string, .string, .uint 256, .uint 8]
    ++ (if c.accessControl = .manager then [.address] else [])
  types : c.contract.params.map (some ·.type) = (ConstructorArgs.ofConfig c).values.map Value.ty?
  words : c.sourceUnit.params.map (fun p => some (typeWord p)) =
    (ConstructorArgs.ofConfig c).values.map Value.typeName?
  /-- The authority of a managed token is an account. -/
  authority : c.accessControl = .manager → ∃ x, c.accessManager = some x ∧ x ≠ 0 ∧
    Address.parse (trim (d.accessManager.getD "")) = .ok x
  encoded : ∀ (i : Interface) (ps : List Param), i.constructor = some ps →
    Param.resolveAll ps = .ok (c.contract.params.map (·.type)) →
    ∃ hex, i.encodeArguments (ConstructorArgs.ofConfig c).values = .ok hex ∧ EncodedCall d c hex

namespace Draft.Accepted

variable {d : Draft} {c : TokenConfig}

theorem encodedCall (h : d.Accepted c) :
    EncodedCall d c (Hex.encode (Abi.encodeArguments (ConstructorArgs.ofConfig c).values)) := by
  obtain ⟨hsupply, hfits⟩ := Amount.scaled h.initialSupply_parse
  have hdecimals : c.decimals < 2 ^ 256 := lt_of_le_of_lt h.decimals_le (by decide)
  have hcall : (ConstructorArgs.ofConfig c).CallData _ :=
    ConstructorArgs.callData_encodeArguments hfits hdecimals
  have hargs : ConstructorArgs.ofConfig c = ⟨trim d.tokenName, trim d.tokenSymbol,
      c.initialSupply.baseUnits, c.decimals, c.accessManager⟩ := by
    rw [← h.tokenName_eq, ← h.tokenSymbol_eq]
    rfl
  refine
    { digits := fun x hx => Hex.isDigit_of_mem_encode hx
      length := ?_
      arguments := ⟨_, _, Hex.decode?_encode _, hsupply, hargs ▸ hcall⟩ }
  have hmanager : (if c.accessControl = .manager then 1 else 0) =
      c.accessManager.toList.length := by
    rcases h.authority with ⟨hno, hnone⟩ | ⟨hyes, x, hsome, -⟩
    · rw [if_neg hno, hnone]
      rfl
    · rw [if_pos hyes, hsome]
      rfl
  rw [Hex.length_encode, hcall.length, hargs, hmanager, ConstructorArgs.headWords]
  ring

theorem typeWords (h : d.Accepted c) : c.sourceUnit.params.map (fun p => some (typeWord p)) =
    (ConstructorArgs.ofConfig c).values.map Value.typeName? := by
  have hword : ∀ p ∈ Synthesis.params c, typeWord p.render = p.type.name := by
    have hfixed : ∀ p ∈ ([⟨.string, "name_"⟩, ⟨.string, "symbol_"⟩, ⟨.uint 256, "initialSupply"⟩,
        ⟨.uint 8, ""⟩, ⟨.address, "initialAuthority"⟩] : List Solidity.Parameter),
        typeWord p.render = p.type.name := by
      decide
    intro p hp
    refine hfixed p ?_
    unfold Synthesis.params at hp
    split at hp
    · exact hp
    · rw [List.append_nil] at hp
      exact List.mem_append_left [_] hp
  have hnames : c.sourceUnit.params.map (fun p => some (typeWord p)) =
      c.contract.params.map fun p => some p.type.name := by
    simp only [TokenConfig.sourceUnit, Solidity.Contract.toSourceUnit, List.map_map]
    exact List.map_congr_left fun p hp => congrArg some (hword p hp)
  have htypes := congrArg (List.map (Option.map Ty.name)) h.types_params
  rw [List.map_map, List.map_map] at htypes
  rw [hnames]
  refine htypes.trans (List.map_congr_left fun v _ => ?_)
  exact v.typeName?_eq.symm

end Draft.Accepted

/-- An accepted draft makes a constructor and the call of it. -/
theorem constructorCall_of_validate {d : Draft} {c : TokenConfig} (h : d.validate = .ok c) :
    ConstructorCall d c := by
  have hd := Draft.validate_eq_ok_iff.mp h
  refine
    { params := ?_
      types := hd.types_params
      words := hd.typeWords
      authority := hd.authority_toList.1
      encoded := fun i ps hi hps => ?_ }
  · simp only [TokenConfig.contract, Synthesis.params, List.map_append]
    split <;> rfl
  · exact ⟨_, Interface.encodeArguments_eq_ok hi hps hd.acceptsAll, hd.encodedCall⟩

/-- A draft of a token that a manager governs. -/
def managedDraft : Draft :=
  { cappedDraft with
    tokenName := " Zinn 錫 "
    accessControl := "manager"
    accessManager := some "0x00000000000000000000000000000000000000a1" }

/-- The interface of a constructor with an authority. -/
def managedInterface : Interface where
  constructor := some [.mk "name_" "string" [], .mk "symbol_" "string" [],
    .mk "initialSupply" "uint256" [], .mk "" "uint8" [], .mk "initialAuthority" "address" []]
  size := 1

theorem constructorCall_managedDraft : ∃ c hex, managedDraft.validate = .ok c ∧
    c.accessControl = .manager ∧
    managedInterface.encodeArguments (ConstructorArgs.ofConfig c).values = .ok hex ∧
    EncodedCall managedDraft c hex := by
  have hmanaged : (match managedDraft.validate with
      | .ok c => c.accessControl
      | .error _ => .none) = AccessControl.manager := by
    decide +kernel
  cases h : managedDraft.validate with
  | error e =>
    rw [h] at hmanaged
    cases hmanaged
  | ok c =>
    rw [h] at hmanaged
    have hcall := constructorCall_of_validate h
    have hresolve : Param.resolveAll [.mk "name_" "string" [], .mk "symbol_" "string" [],
        .mk "initialSupply" "uint256" [], .mk "" "uint8" [],
        .mk "initialAuthority" "address" []] = .ok (c.contract.params.map (·.type)) := by
      rw [hcall.params, if_pos hmanaged]
      rfl
    obtain ⟨hex, hencode, hencoded⟩ := hcall.encoded managedInterface _ rfl hresolve
    exact ⟨c, hex, rfl, hmanaged, hencode, hencoded⟩

end TokenLaunch
