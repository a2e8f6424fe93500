import Mathlib.Tactic.IntervalCases
import TokenLaunch.Hex

/-!
# Hexadecimal digits

Bytes are two digits each, all of them in lower case, and the digits give the bytes back.
-/

namespace TokenLaunch.Hex

/-- A lower-case digit. -/
def IsDigit (c : Char) : Prop := c ∈ "0123456789abcdef".toList

instance (c : Char) : Decidable (IsDigit c) := inferInstanceAs (Decidable (_ ∈ _))

theorem digit_mod (n : Nat) : digit n = digit (n % 16) := by
  rw [digit, digit, Nat.mod_mod]

theorem value?_digit_of_lt {n : Nat} (h : n < 16) : value? (digit n) = some n := by
  interval_cases n <;> rfl

theorem isDigit_digit (n : Nat) : IsDigit (digit n) := by
  have hdigits : ∀ m < 16, IsDigit (digit m) := by decide
  rw [digit_mod]
  exact hdigits _ (Nat.mod_lt _ (by decide))

theorem value?_digit (n : Nat) : value? (digit n) = some (n % 16) := by
  rw [digit_mod]
  exact value?_digit_of_lt (Nat.mod_lt _ (by decide))

theorem decode?_byteChars_append (b : UInt8) (rest : List Char) :
    decode? (byteChars b ++ rest) = (decode? rest).map (b :: ·) := by
  have hb := b.toNat_lt
  have hhigh : b.toNat / 16 % 16 = b.toNat / 16 := Nat.mod_eq_of_lt (by omega)
  have hsplit : 16 * (b.toNat / 16) + b.toNat % 16 = b.toNat := Nat.div_add_mod _ _
  rw [byteChars, List.cons_append, List.singleton_append, decode?, value?_digit, value?_digit,
    hhigh]
  simp only [Option.bind_eq_bind, Option.bind_some, hsplit, UInt8.ofNat_toNat]

/-- The digits of bytes are read back as these bytes. -/
theorem decode?_encode (bytes : List UInt8) : decode? (encode bytes).toList = some bytes := by
  rw [encode, String.toList_ofList]
  induction bytes with
  | nil => rfl
  | cons b bytes ih => rw [List.flatMap_cons, decode?_byteChars_append, ih, Option.map_some]

theorem length_encode (bytes : List UInt8) : (encode bytes).toList.length = 2 * bytes.length := by
  rw [encode, String.toList_ofList]
  induction bytes with
  | nil => rfl
  | cons b bytes ih =>
    rw [List.flatMap_cons, List.length_append, ih, byteChars, List.length_cons]
    simp only [List.length_cons, List.length_nil]
    omega

theorem isDigit_of_mem_encode {bytes : List UInt8} {c : Char} (h : c ∈ (encode bytes).toList) :
    IsDigit c := by
  rw [encode, String.toList_ofList, List.mem_flatMap] at h
  obtain ⟨b, -, hc⟩ := h
  simp only [byteChars, List.mem_cons, List.not_mem_nil, or_false] at hc
  rcases hc with rfl | rfl
  · exact isDigit_digit _
  · exact isDigit_digit _

end TokenLaunch.Hex
