import Mathlib.Data.List.TakeWhile
import Mathlib.Tactic.Common
import TokenLaunch.TokenConfig

/-!
# Contract names

The letters and digits that the name of a contract is made of.
-/

namespace TokenLaunch

/-- An upper-case letter, and behind it upper-case letters and digits. -/
def IsContractName (s : String) : Prop :=
  ∃ c cs, s.toList = c :: cs ∧ c.isUpper = true ∧ ∀ x ∈ cs, x.isUpper = true ∨ x.isDigit = true

theorem isLower_iff_toNat {c : Char} : c.isLower = true ↔ 97 ≤ c.toNat ∧ c.toNat ≤ 122 := by
  change (decide ('a'.val ≤ c.val) && decide (c.val ≤ 'z'.val)) = true ↔ _
  simp [UInt32.le_iff_toNat_le, ← Char.toNat_val]

theorem isUpper_iff_toNat {c : Char} : c.isUpper = true ↔ 65 ≤ c.toNat ∧ c.toNat ≤ 90 := by
  change decide ('A'.val ≤ c.val ∧ c.val ≤ 'Z'.val) = true ↔ _
  simp [UInt32.le_iff_toNat_le, ← Char.toNat_val]

theorem isLower_iff_val {c : Char} : c.isLower = true ↔ 'a'.val ≤ c.val ∧ c.val ≤ 'z'.val := by
  change (decide ('a'.val ≤ c.val) && decide (c.val ≤ 'z'.val)) = true ↔ _
  rw [Bool.and_eq_true, decide_eq_true_iff, decide_eq_true_iff]

theorem toUpper_of_not_isLower {c : Char} (h : ¬ c.isLower = true) : c.toUpper = c :=
  dif_neg fun hrange => h (isLower_iff_val.mpr hrange)

theorem toNat_toUpper_of_isLower {c : Char} (h : c.isLower = true) :
    c.toUpper.toNat = c.toNat - 32 := by
  have hrange := isLower_iff_toNat.mp h
  have hval : c.toUpper.val = c.val + ('A'.val - 'a'.val) := by
    delta Char.toUpper
    rw [dif_pos (isLower_iff_val.mp h)]
  have hshift : ('A'.val - 'a'.val).toNat = 4294967264 := rfl
  have hc : c.val.toNat = c.toNat := rfl
  rw [← Char.toNat_val, hval, UInt32.toNat_add]
  omega

theorem isUpper_toUpper {c : Char} (h : c.isAlpha = true) : c.toUpper.isUpper = true := by
  by_cases hlower : c.isLower = true
  · have hrange := isLower_iff_toNat.mp hlower
    rw [isUpper_iff_toNat, toNat_toUpper_of_isLower hlower]
    omega
  · rw [toUpper_of_not_isLower hlower]
    exact (Bool.or_eq_true_iff.mp h).resolve_right hlower

theorem not_isDigit_of_isAlpha {c : Char} (h : c.isAlpha = true) : c.isDigit = false := by
  rw [Bool.eq_false_iff, ne_eq, Char.isDigit_iff_toNat]
  have hnine : '9'.toNat = 57 := rfl
  rcases Bool.or_eq_true_iff.mp h with hupper | hlower
  · have hrange := isUpper_iff_toNat.mp hupper
    omega
  · have hrange := isLower_iff_toNat.mp hlower
    omega

theorem toUpper_of_isDigit {c : Char} (h : c.isDigit = true) : c.toUpper = c := by
  refine toUpper_of_not_isLower fun hlower => ?_
  have halpha : c.isAlpha = true := Bool.or_eq_true_iff.mpr (.inr hlower)
  rw [not_isDigit_of_isAlpha halpha] at h
  cases h

/-- Raised, a letter is upper-case and a digit is still a digit. -/
theorem isUpper_or_isDigit_toUpper {c : Char} (h : isPlain c = true) :
    c.toUpper.isUpper = true ∨ c.toUpper.isDigit = true := by
  rcases Bool.or_eq_true_iff.mp h with halpha | hdigit
  · exact .inl (isUpper_toUpper halpha)
  · rw [toUpper_of_isDigit hdigit]
    exact .inr hdigit

theorem isContractName_of_contractIdentifier? {s name : String}
    (h : contractIdentifier? s = some name) : IsContractName name := by
  have hplain : ∀ x ∈ (s.toList.filter isPlain).dropWhile Char.isDigit, isPlain x = true :=
    fun x hx => (List.mem_filter.mp ((List.dropWhile_suffix _).subset hx)).2
  unfold contractIdentifier? at h
  cases hcs : (s.toList.filter isPlain).dropWhile Char.isDigit with
  | nil => simp [hcs] at h
  | cons c cs =>
    rw [hcs] at h hplain
    obtain rfl := Option.some.inj h
    have hhead : ¬ c.isDigit = true := by
      have hfirst := List.head?_dropWhile_not Char.isDigit (s.toList.filter isPlain)
      rw [hcs] at hfirst
      simpa using hfirst
    have halpha : c.isAlpha = true :=
      (Bool.or_eq_true_iff.mp (hplain c List.mem_cons_self)).resolve_right hhead
    refine ⟨c.toUpper, cs.map Char.toUpper, by simp, isUpper_toUpper halpha, ?_⟩
    intro x hx
    obtain ⟨y, hy, rfl⟩ := List.mem_map.mp hx
    exact isUpper_or_isDigit_toUpper (hplain y (List.mem_cons_of_mem _ hy))

/-- A token name gives a contract name exactly if it has a letter. -/
theorem exists_contractIdentifier?_iff {s : String} :
    (∃ name, contractIdentifier? s = some name) ↔ ∃ x ∈ s.toList, x.isAlpha = true := by
  have hnone : contractIdentifier? s = none ↔ ∀ x ∈ s.toList.filter isPlain, x.isDigit = true := by
    rw [← List.dropWhile_eq_nil_iff, contractIdentifier?]
    split <;> simp_all
  constructor
  · rintro ⟨name, hname⟩
    by_contra! hletters
    have hdigits : ∀ x ∈ s.toList.filter isPlain, x.isDigit = true := by
      intro x hx
      obtain ⟨hmem, hplain⟩ := List.mem_filter.mp hx
      exact (Bool.or_eq_true_iff.mp hplain).resolve_left (hletters x hmem)
    rw [hnone.mpr hdigits] at hname
    cases hname
  · rintro ⟨x, hx, halpha⟩
    refine Option.ne_none_iff_exists'.mp fun h => ?_
    have hdigit := hnone.mp h x (List.mem_filter.mpr ⟨hx, by rw [isPlain, halpha, Bool.true_or]⟩)
    rw [not_isDigit_of_isAlpha halpha] at hdigit
    cases hdigit

/-- A character that is no upper-case letter and no digit does not stand in the name. -/
theorem IsContractName.notMem {s : String} (h : IsContractName s) {x : Char}
    (hupper : x.isUpper = false) (hdigit : x.isDigit = false) : x ∉ s.toList := by
  obtain ⟨c, cs, hs, hc, hcs⟩ := h
  rw [hs, List.mem_cons]
  rintro (rfl | hx)
  · rw [hc] at hupper
    cases hupper
  · rcases hcs x hx with hx | hx
    · rw [hx] at hupper
      cases hupper
    · rw [hx] at hdigit
      cases hdigit

theorem IsContractName.isAlphanum {s : String} (h : IsContractName s) {x : Char}
    (hx : x ∈ s.toList) : x.isAlphanum = true := by
  have hkinds : x.isAlphanum = (x.isUpper || x.isLower || x.isDigit) := rfl
  have hupper (hx : x.isUpper = true) : x.isAlphanum = true := by
    rw [hkinds, hx, Bool.true_or, Bool.true_or]
  obtain ⟨c, cs, hs, hc, hcs⟩ := h
  rw [hs, List.mem_cons] at hx
  rcases hx with rfl | hx
  · exact hupper hc
  · rcases hcs x hx with hx | hx
    · exact hupper hx
    · rw [hkinds, hx, Bool.or_true]

theorem Draft.checkContractName_eq_ok_iff {tokenName name : String} :
    Draft.checkContractName tokenName = .ok name ↔ contractIdentifier? tokenName = some name := by
  unfold Draft.checkContractName
  cases contractIdentifier? tokenName <;> simp

end TokenLaunch
