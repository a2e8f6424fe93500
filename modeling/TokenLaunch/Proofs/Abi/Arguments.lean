import Mathlib.Tactic.Common
import TokenLaunch.Abi.Interface

/-!
# Arguments and their types

The types that values show, and the interfaces whose constructors take values of given types.
-/

namespace TokenLaunch.Abi

mutual
/-- The type of a value, as far as the value shows it. -/
def Value.ty? : Value → Option Ty
  | .bool _ => some .bool
  | .int _ bits => some (.int bits)
  | .uint _ bits => some (.uint bits)
  | .fixedBytes bs => some (.fixedBytes bs.length)
  | .address _ => some .address
  | .bytes _ => some .bytes
  | .string _ => some .string
  | .array items => (Value.firstTy? items).map .array
  | .fixedArray items => (Value.firstTy? items).map (.fixedArray · items.length)
  | .tuple items => (Value.tys? items).map .tuple

def Value.firstTy? : List Value → Option Ty
  | [] => none
  | v :: _ => v.ty?

def Value.tys? : List Value → Option (List Ty)
  | [] => some []
  | v :: vs => do
    let t ← v.ty?
    let ts ← Value.tys? vs
    some (t :: ts)
end

mutual
/-- The name that a value shows is that of its type. -/
theorem Value.typeName?_eq (v : Value) : v.typeName? = v.ty?.map Ty.name := by
  cases v with
  | bool | int | uint | fixedBytes | address | bytes | string => rfl
  | array items =>
    rw [Value.typeName?, Value.ty?, Value.firstTypeName?_eq items]
    cases Value.firstTy? items <;> rfl
  | fixedArray items =>
    rw [Value.typeName?, Value.ty?, Value.firstTypeName?_eq items]
    cases Value.firstTy? items <;> rfl
  | tuple items =>
    rw [Value.typeName?, Value.ty?, Value.typeNames?_eq items]
    cases Value.tys? items <;> rfl

theorem Value.firstTypeName?_eq (vs : List Value) :
    Value.firstTypeName? vs = (Value.firstTy? vs).map Ty.name := by
  cases vs with
  | nil => rfl
  | cons v vs => exact v.typeName?_eq

theorem Value.typeNames?_eq (vs : List Value) :
    Value.typeNames? vs = (Value.tys? vs).map Ty.names := by
  cases vs with
  | nil => rfl
  | cons v vs =>
    rw [Value.typeNames?, Value.tys?, v.typeName?_eq, Value.typeNames?_eq vs]
    cases v.ty? with
    | none => rfl
    | some t => cases Value.tys? vs <;> rfl
end

theorem Param.resolveAll_cons_eq_ok {p : Param} {ps : List Param} {ts : List Ty}
    (h : Param.resolveAll (p :: ps) = .ok ts) :
    ∃ t ts', p.resolve = .ok t ∧ Param.resolveAll ps = .ok ts' ∧ ts = t :: ts' := by
  rw [Param.resolveAll] at h
  cases hp : p.resolve with
  | error fault =>
    rw [hp] at h
    cases h
  | ok t =>
    cases hps : Param.resolveAll ps with
    | error fault =>
      rw [hp, hps] at h
      cases h
    | ok ts' =>
      rw [hp, hps] at h
      cases h
      exact ⟨t, ts', rfl, rfl, rfl⟩

theorem Param.length_resolveAll {ps : List Param} {ts : List Ty}
    (h : Param.resolveAll ps = .ok ts) : ps.length = ts.length := by
  induction ps generalizing ts with
  | nil =>
    cases h
    rfl
  | cons p ps ih =>
    obtain ⟨t, ts', -, hts, rfl⟩ := Param.resolveAll_cons_eq_ok h
    rw [List.length_cons, List.length_cons, ih hts]

theorem Ty.length_of_acceptsAll {ts : List Ty} {vs : List Value}
    (h : Ty.acceptsAll ts vs = true) : ts.length = vs.length := by
  induction ts generalizing vs with
  | nil => cases vs with
    | nil => rfl
    | cons v vs => cases h
  | cons t ts ih => cases vs with
    | nil => cases h
    | cons v vs =>
      rw [Ty.acceptsAll, Bool.and_eq_true] at h
      rw [List.length_cons, List.length_cons, ih h.2]

theorem Interface.checkArguments_eq_ok {ps : List Param} {ts : List Ty} {vs : List Value}
    (hps : Param.resolveAll ps = .ok ts) (hvs : Ty.acceptsAll ts vs = true) :
    Interface.checkArguments ps vs = .ok () := by
  induction ps generalizing ts vs with
  | nil => rfl
  | cons p ps ih =>
    obtain ⟨t, ts, hp, hts, rfl⟩ := Param.resolveAll_cons_eq_ok hps
    cases vs with
    | nil => rfl
    | cons v vs =>
      rw [Ty.acceptsAll, Bool.and_eq_true] at hvs
      rw [Interface.checkArguments, hp]
      simp only [hvs.1, if_true]
      exact ih hts hvs.2

/-- Values of the types of a constructor are encoded. -/
theorem Interface.encodeArguments_eq_ok {i : Interface} {ps : List Param} {ts : List Ty}
    {vs : List Value} (hi : i.constructor = some ps) (hps : Param.resolveAll ps = .ok ts)
    (hvs : Ty.acceptsAll ts vs = true) :
    i.encodeArguments vs = .ok (Hex.encode (Abi.encodeArguments vs)) := by
  have hlength : ps.length = vs.length :=
    (Param.length_resolveAll hps).trans (Ty.length_of_acceptsAll hvs)
  rw [Interface.encodeArguments, hi]
  simp only [hlength, if_true, Interface.checkArguments_eq_ok hps hvs]
  rfl

end TokenLaunch.Abi
