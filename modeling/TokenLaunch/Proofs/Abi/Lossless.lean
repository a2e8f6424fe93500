import TokenLaunch.Proofs.Abi.RoundTrip
import TokenLaunch.Proofs.Hex

/-!
# Arguments are not lost

The digits that the arguments of a constructor are encoded as give the arguments back, so that no
two lists of arguments share their digits.
-/

namespace TokenLaunch.Abi

/-- Arguments are read back by their types. -/
theorem decodeArguments_encodeArguments {ts : List Ty} {vs : List Value}
    (hts : Ty.AllWellFormed ts) (hvs : List.Forall₂ Ty.Holds ts vs)
    (hlength : (encodeArguments vs).length < 2 ^ 256) :
    decodeArguments ts (encodeArguments vs) = some vs := by
  have hread := readSlots_zero (Ty.reads_slots ts hts hvs) hlength []
  rwa [List.append_nil] at hread

example : decodeArguments [.array (.tuple [.array (.uint 8), .bool]), .bytes]
    (encodeArguments [.array [.tuple [.array [], .bool true]], .bytes [7]]) =
      some [.array [.tuple [.array [], .bool true]], .bytes [7]] := by cbv

/-- Digits of call data in which a word can tell every place.  No memory holds others: they would be
those of more bytes than there are numbers of 256 bits. -/
def Addressable (hex : String) : Prop := hex.toList.length < 2 * 2 ^ 256

/-- Lower-case digits of whole words, in which a decoder finds values by their types. -/
structure Encodes (ts : List Ty) (vs : List Value) (hex : String) : Prop where
  digits : ∀ c ∈ hex.toList, Hex.IsDigit c
  words : 64 ∣ hex.toList.length
  decoded : Addressable hex → (Hex.decode? hex.toList).bind (decodeArguments ts) = some vs

theorem encodes_encodeArguments {ts : List Ty} {vs : List Value} (hts : Ty.AllWellFormed ts)
    (hvs : List.Forall₂ Ty.Holds ts vs) : Encodes ts vs (Hex.encode (encodeArguments vs)) where
  digits _ hc := Hex.isDigit_of_mem_encode hc
  words := by
    rw [Hex.length_encode]
    exact Nat.mul_dvd_mul_left 2 (dvd_length_encodeArguments vs)
  decoded := by
    intro hhex
    rw [Addressable, Hex.length_encode] at hhex
    rw [Hex.decode?_encode, Option.bind_some]
    exact decodeArguments_encodeArguments hts hvs (by omega)

/-- Digits of call data are those of one list of values only. -/
theorem Encodes.unique {ts : List Ty} {vs vs' : List Value} {hex : String}
    (h : Encodes ts vs hex) (h' : Encodes ts vs' hex) (hhex : Addressable hex) : vs = vs' :=
  Option.some.inj ((h.decoded hhex).symm.trans (h'.decoded hhex))

namespace Interface

/-- The arguments of constructors are kept in their digits. -/
structure Lossless : Prop where
  /-- The types of parameters are all types of call data. -/
  spelled : ∀ {ts : List Ty}, (∃ ps, Param.resolveAll ps = .ok ts) ↔ Ty.AllWellFormed ts
  /-- Values of the types of the parameters are encoded, and can be read back. -/
  encoded : ∀ {i : Interface} {ps : List Param} {ts : List Ty} {vs : List Value},
    i.constructor = some ps → Param.resolveAll ps = .ok ts → List.Forall₂ Ty.Holds ts vs →
      ∃ hex, i.encodeArguments vs = .ok hex ∧ Encodes ts vs hex
  /-- Different values of the same types are encoded differently. -/
  injective : ∀ {i : Interface} {ps : List Param} {ts : List Ty} {vs vs' : List Value}
    {hex : String}, i.constructor = some ps → Param.resolveAll ps = .ok ts →
      List.Forall₂ Ty.Holds ts vs → List.Forall₂ Ty.Holds ts vs' →
        i.encodeArguments vs = .ok hex → i.encodeArguments vs' = .ok hex → Addressable hex →
          vs = vs'
  wrongCount : ∀ {i : Interface} {ps : List Param} {vs : List Value},
    i.constructor = some ps → vs.length ≠ ps.length →
      i.encodeArguments vs = .error (.wrongCount ps.length vs.length)
  noConstructor : ∀ {i : Interface} {vs : List Value}, i.constructor = none → vs ≠ [] →
    i.encodeArguments vs = .error (.noConstructor vs.length)
  noArguments : ∀ {i : Interface}, i.constructor = none → i.encodeArguments [] = .ok ""

theorem exists_encodes {i : Interface} {ps : List Param} {ts : List Ty} {vs : List Value}
    (hi : i.constructor = some ps) (hps : Param.resolveAll ps = .ok ts)
    (hvs : List.Forall₂ Ty.Holds ts vs) :
    ∃ hex, i.encodeArguments vs = .ok hex ∧ Encodes ts vs hex :=
  ⟨_, encodeArguments_eq_ok hi hps (Ty.acceptsAll_of_forall₂ ts hvs),
    encodes_encodeArguments (Param.allWellFormed_of_resolveAll ps hps) hvs⟩

theorem lossless : Lossless where
  spelled := Param.exists_resolveAll_iff
  encoded := exists_encodes
  injective := by
    intro i ps ts vs vs' hex hi hps hvs hvs' hencode hencode' hhex
    obtain ⟨hex₁, hok₁, h₁⟩ := exists_encodes hi hps hvs
    obtain ⟨hex₂, hok₂, h₂⟩ := exists_encodes hi hps hvs'
    cases hok₁.symm.trans hencode
    cases hok₂.symm.trans hencode'
    exact h₁.unique h₂ hhex
  wrongCount := by
    intro i ps vs hi hcount
    simp only [encodeArguments, hi, if_neg (Ne.symm hcount)]
  noConstructor := by
    intro i vs hi hvs
    have hempty : vs.isEmpty = false := List.isEmpty_eq_false_iff.mpr hvs
    simp only [encodeArguments, hi, hempty, Bool.false_eq_true, if_false]
  noArguments := by
    intro i hi
    rw [encodeArguments, hi]
    rfl

/-- A constructor that takes two arrays of texts with numbers. -/
def nestedInterface : Interface where
  constructor := some [.mk "notes" "tuple[][2]"
    [.mk "text" "string" [], .mk "marks" "uint8[]" []]]
  size := 1

/-- The type of its one parameter. -/
def nestedTy : Ty := .fixedArray (.array (.tuple [.string, .array (.uint 8)])) 2

/-- An empty array, and one of an empty text with a number. -/
def nestedValue : Value := .fixedArray [.array [], .array [.tuple [.string "", .array [.uint 7 8]]]]

theorem holds_nestedValue : nestedTy.Holds nestedValue := by
  have hmarks : (Ty.array (.uint 8)).Holds (.array [.uint 7 8]) :=
    .array (by decide) (List.forall_mem_singleton.mpr (.uint 8 (by decide)))
  have hnote : (Ty.tuple [.string, .array (.uint 8)]).Holds
      (.tuple [.string "", .array [.uint 7 8]]) :=
    .tuple (.cons (.string "") (.cons hmarks .nil))
  refine .fixedArray (List.forall_mem_cons.mpr ⟨?_, List.forall_mem_singleton.mpr ?_⟩)
  · exact .array (by decide) (List.forall_mem_nil _)
  · exact .array (by decide) (List.forall_mem_singleton.mpr hnote)

theorem lossless_nestedInterface :
    ∃ hex, nestedInterface.encodeArguments [nestedValue] = .ok hex ∧
      Encodes [nestedTy] [nestedValue] hex :=
  lossless.encoded rfl (by rfl) (.cons holds_nestedValue .nil)

end Interface

end TokenLaunch.Abi
