import Mathlib.Data.List.Induction
import Mathlib.Tactic.Ring
import TokenLaunch.Text

/-!
# Decimal digits

The number that a text of digits stands for, and the text of digits that stands for a number.
-/

namespace TokenLaunch.Text

/-- One digit or more, and nothing else. -/
def IsDigits (cs : List Char) : Prop := cs ≠ [] ∧ ∀ c ∈ cs, c.isDigit = true

theorem number_append_singleton (cs : List Char) (c : Char) :
    number (cs ++ [c]) = 10 * number cs + digitValue c := by
  simp [number, List.foldl_append]

theorem number_append (cs ds : List Char) :
    number (cs ++ ds) = number cs * 10 ^ ds.length + number ds := by
  induction ds using List.reverseRecOn with
  | nil => simp [number]
  | append_singleton ds d ih =>
    rw [← List.append_assoc, number_append_singleton, ih, number_append_singleton,
      List.length_append, List.length_singleton, pow_succ]
    ring

theorem digitValue_lt {c : Char} (h : c.isDigit = true) : digitValue c < 10 := by
  have hle : c.toNat ≤ 57 := by
    simp only [Char.isDigit, Bool.and_eq_true, decide_eq_true_eq] at h
    exact h.2
  have hzero : '0'.toNat = 48 := rfl
  rw [digitValue, hzero]
  omega

theorem number_lt {cs : List Char} (h : ∀ c ∈ cs, c.isDigit = true) :
    number cs < 10 ^ cs.length := by
  induction cs using List.reverseRecOn with
  | nil => simp [number]
  | append_singleton cs c ih =>
    have hcs := ih fun x hx => h x (by simp [hx])
    have hc := digitValue_lt (h c (by simp))
    rw [number_append_singleton, List.length_append, List.length_singleton, pow_succ]
    omega

/-- The digits at the head of a text end where no digit follows. -/
theorem takeWhile_isDigit {ds : List Char} (rest : List Char) (h : ∀ c ∈ ds, c.isDigit = true)
    (hrest : ∀ c ∈ rest.head?, c.isDigit = false) :
    (ds ++ rest).takeWhile Char.isDigit = ds ∧ (ds ++ rest).dropWhile Char.isDigit = rest := by
  induction ds with
  | nil => cases rest <;> simp_all
  | cons d ds ih => simp_all

/-! ## The digits of a number -/

theorem isDigits_decimal (n : Nat) : IsDigits (decimal n).toList := by
  rw [decimal, String.toList_ofList]
  exact ⟨Nat.toDigits_ne_nil, fun c hc => Nat.isDigit_of_mem_toDigits (by decide) (by decide) hc⟩

theorem number_decimal (n : Nat) : number (decimal n).toList = n := by
  rw [decimal, String.toList_ofList]
  exact Nat.ofDigitChars_ten_toDigits

theorem number?_decimal (n : Nat) : number? (decimal n).toList = some n := by
  obtain ⟨hne, hdigits⟩ := isDigits_decimal n
  have hall : (decimal n).toList.all Char.isDigit = true := List.all_eq_true.mpr hdigits
  rw [number?, if_neg (by simp [hne, hall]), number_decimal]

end TokenLaunch.Text
