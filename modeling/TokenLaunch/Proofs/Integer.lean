import TokenLaunch.Amount
import TokenLaunch.Proofs.Decimal

/-!
# Texts of integers

The texts that are read as integers of a bounded size: decimal digits, with or without a plus sign
before them, whose number is below the bound.
-/

namespace TokenLaunch

open Text

/-- A text that stands for an integer: digits, with or without a plus sign before them. -/
inductive DenotesInteger : List Char → Nat → Prop
  | digits {ds : List Char} (h : IsDigits ds) : DenotesInteger ds (number ds)
  | plus {ds : List Char} (h : IsDigits ds) : DenotesInteger ('+' :: ds) (number ds)

/-- The number that digits stand for behind a number that was read before. -/
def numberFrom (n : Nat) (cs : List Char) : Nat := cs.foldl (fun n c => 10 * n + digitValue c) n

theorem le_numberFrom (n : Nat) (cs : List Char) : n ≤ numberFrom n cs := by
  induction cs generalizing n with
  | nil => exact Nat.le_refl n
  | cons c cs ih =>
    calc
      n ≤ 10 * n + digitValue c := by omega
      _ ≤ numberFrom (10 * n + digitValue c) cs := ih _

/-- No digit makes the number smaller, so that a bound which holds at the end has held before. -/
theorem readDigits_eq_ok_iff {bound n m : Nat} {cs : List Char} (hn : n < bound) :
    readDigits bound n cs = .ok m ↔
      (∀ c ∈ cs, c.isDigit = true) ∧ m = numberFrom n cs ∧ m < bound := by
  induction cs generalizing n with
  | nil =>
    simp only [readDigits, Except.ok.injEq]
    constructor
    · rintro rfl
      exact ⟨by simp, rfl, hn⟩
    · rintro ⟨-, rfl, -⟩
      rfl
  | cons c cs ih =>
    have hfrom : numberFrom n (c :: cs) = numberFrom (10 * n + digitValue c) cs := rfl
    rw [readDigits, List.forall_mem_cons, hfrom]
    by_cases hc : c.isDigit = true
    · by_cases hlt : 10 * n + digitValue c < bound
      · rw [if_pos hc, if_pos hlt, ih hlt]
        simp only [hc, true_and]
      · rw [if_pos hc, if_neg hlt]
        simp only [reduceCtorEq, false_iff]
        rintro ⟨-, rfl, hbound⟩
        have hle := le_numberFrom (10 * n + digitValue c) cs
        omega
    · simp [hc]

/-- Digits are read from nothing. -/
theorem readDigits_zero_eq_ok_iff {bound m : Nat} {cs : List Char} (hbound : 0 < bound) :
    readDigits bound 0 cs = .ok m ↔
      (∀ c ∈ cs, c.isDigit = true) ∧ m = number cs ∧ m < bound :=
  readDigits_eq_ok_iff hbound

theorem readInteger_eq_ok_iff {bound m : Nat} {s : String} (hbound : 0 < bound) :
    readInteger bound s = .ok m ↔ DenotesInteger s.toList m ∧ m < bound := by
  unfold readInteger
  constructor
  · intro h
    split at h
    · cases h
    · cases h
    · rename_i cs hne hs
      obtain ⟨hdigits, rfl, hlt⟩ := (readDigits_zero_eq_ok_iff hbound).mp h
      rw [hs]
      exact ⟨.plus ⟨hne, hdigits⟩, hlt⟩
    · rename_i cs hne _ _
      obtain ⟨hdigits, rfl, hlt⟩ := (readDigits_zero_eq_ok_iff hbound).mp h
      exact ⟨.digits ⟨hne, hdigits⟩, hlt⟩
  · rintro ⟨hs, hlt⟩
    generalize s.toList = cs at hs
    cases hs with
    | digits h =>
      obtain ⟨d, ds, rfl⟩ := List.exists_cons_of_ne_nil h.1
      have hplus : d ≠ '+' := by
        rintro rfl
        exact absurd (h.2 '+' List.mem_cons_self) (by decide)
      have hread := (readDigits_zero_eq_ok_iff hbound).mpr ⟨h.2, rfl, hlt⟩
      split
      · contradiction
      · rename_i heq
        exact absurd (List.cons.inj heq).1 hplus
      · rename_i heq
        exact absurd (List.cons.inj heq).1 hplus
      · exact hread
    | plus h =>
      obtain ⟨d, ds, rfl⟩ := List.exists_cons_of_ne_nil h.1
      exact (readDigits_zero_eq_ok_iff hbound).mpr ⟨h.2, rfl, hlt⟩

end TokenLaunch
