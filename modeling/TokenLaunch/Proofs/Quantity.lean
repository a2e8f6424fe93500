import Mathlib.Algebra.Order.Floor.Semifield
import Mathlib.Data.Rat.Floor
import Mathlib.Tactic.FieldSimp
import Mathlib.Tactic.Ring
import TokenLaunch.Amount
import TokenLaunch.Proofs.Decimal
import TokenLaunch.Proofs.Trim

/-!
# What a quantity stands for

The rational number that a text of decimal digits denotes, and the amount that is read from it:
the whole base units in that number times a power of ten, whenever they fit a word.
-/

namespace TokenLaunch

namespace Text

/-- The rational that a decimal text stands for: digits, or digits on both sides of a point. -/
inductive Denotes : List Char → ℚ → Prop
  | whole {ds : List Char} (h : IsDigits ds) : Denotes ds (number ds)
  | point {ds fs : List Char} (hd : IsDigits ds) (hf : IsDigits fs) :
    Denotes (ds ++ '.' :: fs) (number ds + number fs / 10 ^ fs.length)

end Text

namespace Quantity

open Text

/-- The rational that the digits of a quantity stand for. -/
def toRat (q : Quantity) : ℚ := number (q.whole ++ q.fraction) / 10 ^ q.fraction.length

/-- A reading of a quantity accounts for the whole text. -/
theorem ofChars?_eq_some {cs : List Char} {q : Quantity} (h : ofChars? cs = some q) :
    IsDigits q.whole ∧
      (q.fraction = [] ∧ cs = q.whole ∨
        IsDigits q.fraction ∧ cs = q.whole ++ '.' :: q.fraction) := by
  have hsplit : cs.takeWhile Char.isDigit ++ cs.dropWhile Char.isDigit = cs :=
    List.takeWhile_append_dropWhile
  have hdigits : ∀ c ∈ cs.takeWhile Char.isDigit, c.isDigit = true :=
    fun c hc => List.mem_takeWhile_imp hc
  cases hwhole : cs.takeWhile Char.isDigit with
  | nil => simp [ofChars?, hwhole] at h
  | cons d ds =>
    rw [hwhole] at hsplit hdigits
    have hds : IsDigits (d :: ds) := ⟨List.cons_ne_nil _ _, hdigits⟩
    cases hrest : cs.dropWhile Char.isDigit with
    | nil =>
      simp only [ofChars?, hwhole, hrest, Option.some.injEq] at h
      subst h
      exact ⟨hds, .inl ⟨rfl, by simpa [hrest] using hsplit.symm⟩⟩
    | cons c fraction =>
      by_cases hc : c = '.'
      · subst hc
        simp only [ofChars?, hwhole, hrest] at h
        split at h
        · cases h
        · rename_i hfraction
          simp only [not_or, List.isEmpty_iff, Bool.not_eq_true', Bool.not_eq_false] at hfraction
          cases h
          refine ⟨hds, .inr ⟨⟨hfraction.1, List.all_eq_true.mp hfraction.2⟩, ?_⟩⟩
          rw [← hsplit, hrest]
      · simp [ofChars?, hwhole, hrest, hc] at h

theorem ofChars?_whole {ds : List Char} (h : IsDigits ds) : ofChars? ds = some ⟨ds, []⟩ := by
  obtain ⟨htake, hdrop⟩ := takeWhile_isDigit [] h.2 (by simp)
  rw [List.append_nil] at htake hdrop
  obtain ⟨d, ds, rfl⟩ := List.exists_cons_of_ne_nil h.1
  simp only [ofChars?, htake, hdrop]

theorem ofChars?_point {ds fs : List Char} (hd : IsDigits ds) (hf : IsDigits fs) :
    ofChars? (ds ++ '.' :: fs) = some ⟨ds, fs⟩ := by
  obtain ⟨htake, hdrop⟩ := takeWhile_isDigit ('.' :: fs) hd.2 (by simp)
  have hall : fs.all Char.isDigit = true := List.all_eq_true.mpr hf.2
  obtain ⟨d, ds, rfl⟩ := List.exists_cons_of_ne_nil hd.1
  simp only [ofChars?, htake, hdrop]
  simp [hall, hf.1]

/-- What a text denotes is the value of its digits. -/
theorem denotes_iff {cs : List Char} {r : ℚ} :
    Denotes cs r ↔ ∃ q, ofChars? cs = some q ∧ q.toRat = r := by
  constructor
  · rintro (h | ⟨hd, hf⟩)
    · exact ⟨_, ofChars?_whole h, by simp [toRat]⟩
    · refine ⟨_, ofChars?_point hd hf, ?_⟩
      rw [toRat, number_append]
      push_cast
      field_simp
  · rintro ⟨q, hq, rfl⟩
    obtain ⟨hwhole, ⟨hnil, rfl⟩ | ⟨hfraction, rfl⟩⟩ := ofChars?_eq_some hq
    · simpa [toRat, hnil] using Denotes.whole hwhole
    · have h := Denotes.point hwhole hfraction
      have heq : q.toRat = number q.whole + number q.fraction / 10 ^ q.fraction.length := by
        rw [toRat, number_append]
        push_cast
        field_simp
      rwa [heq]

/-! ## Scaling -/

/-- The digits that are kept, and as many zeros as decimals are left. -/
def scaled (q : Quantity) (decimals : Nat) : Nat :=
  number (q.whole ++ q.fraction.take decimals) * 10 ^ (decimals - (q.fraction.take decimals).length)

/-- Cutting digits off is rounding down. -/
theorem scaled_eq_floor {q : Quantity} (h : ∀ c ∈ q.fraction, c.isDigit = true) (decimals : Nat) :
    q.scaled decimals = ⌊q.toRat * 10 ^ decimals⌋₊ := by
  have hdiv : ⌊q.toRat * 10 ^ decimals⌋₊ =
      number (q.whole ++ q.fraction) * 10 ^ decimals / 10 ^ q.fraction.length := by
    rw [toRat, div_mul_eq_mul_div, ← @Nat.floor_div_eq_div ℚ]
    push_cast
    rfl
  rw [hdiv, scaled]
  rcases le_total q.fraction.length decimals with hle | hle
  · obtain ⟨spare, rfl⟩ := Nat.exists_eq_add_of_le hle
    rw [List.take_of_length_le hle, Nat.add_sub_cancel_left, pow_add, ← mul_assoc,
      mul_right_comm, Nat.mul_div_cancel _ (Nat.pow_pos (by norm_num))]
  · have hlen : (q.fraction.take decimals).length = decimals := by simpa using hle
    -- the digits after the last decimal are less than one base unit
    have hcut : number (q.fraction.drop decimals) < 10 ^ (q.fraction.drop decimals).length :=
      number_lt fun c hc => h c (List.mem_of_mem_drop hc)
    have hsplit : q.whole ++ q.fraction =
        q.whole ++ q.fraction.take decimals ++ q.fraction.drop decimals := by
      rw [List.append_assoc, List.take_append_drop]
    have hpow : 10 ^ q.fraction.length =
        10 ^ (q.fraction.drop decimals).length * 10 ^ decimals := by
      rw [← pow_add, List.length_drop, Nat.sub_add_cancel hle]
    rw [hlen, Nat.sub_self, pow_zero, mul_one, hsplit,
      number_append (q.whole ++ q.fraction.take decimals), hpow,
      Nat.mul_div_mul_right _ _ (Nat.pow_pos (by norm_num)), Nat.add_comm (_ * _),
      Nat.add_mul_div_right _ _ (Nat.pow_pos (by norm_num)), Nat.div_eq_of_lt hcut, Nat.zero_add]

/-- Scaling fails only where the result does not fit: the digits before it never exceed it. -/
theorem toBaseUnits_eq_ok_iff (q : Quantity) (decimals n : Nat) :
    q.toBaseUnits decimals = .ok n ↔ q.scaled decimals < wordBound ∧ q.scaled decimals = n := by
  have hle : number (q.whole ++ q.fraction.take decimals) ≤ q.scaled decimals :=
    Nat.le_mul_of_pos_right _ (Nat.pow_pos (by norm_num))
  have heq : number (q.whole ++ q.fraction.take decimals)
      * tenTo (decimals - (q.fraction.take decimals).length) = q.scaled decimals := rfl
  simp only [toBaseUnits, heq]
  by_cases hlt : q.scaled decimals < wordBound
  · rw [if_pos ⟨hle.trans_lt hlt, hlt⟩]
    simp [hlt]
  · rw [if_neg fun hfits => hlt hfits.2]
    simp [hlt]

end Quantity

namespace Amount

open Text

/-- An amount is read exactly from a text of digits whose whole base units fit a word. -/
theorem parse_eq_ok_iff (s : String) (decimals : Nat) (a : Amount) :
    parse s decimals = .ok a ↔
      decimals ≤ maxDecimals ∧ ∃ r : ℚ, Denotes (trim s).toList r ∧
        ⌊r * 10 ^ decimals⌋₊ < wordBound ∧ a = ⟨trim s, ⌊r * 10 ^ decimals⌋₊⟩ := by
  simp only [parse]
  cases hq : Quantity.ofChars? (trim s).toList with
  | none =>
    have hnone : ¬ ∃ r, Denotes (trim s).toList r := by
      simp [Quantity.denotes_iff, hq]
    simp only [reduceCtorEq, false_iff]
    rintro ⟨-, r, hr, -⟩
    exact hnone ⟨r, hr⟩
  | some q =>
    have hfraction : ∀ c ∈ q.fraction, c.isDigit = true := by
      obtain ⟨-, ⟨hnil, -⟩ | ⟨hdigits, -⟩⟩ := Quantity.ofChars?_eq_some hq
      · simp [hnil]
      · exact hdigits.2
    simp only [Quantity.denotes_iff, hq, Option.some.injEq]
    split
    · rename_i hscale
      simp [Nat.not_le.mpr hscale]
    · rename_i hscale
      have hmap : (q.toBaseUnits decimals).map (Amount.mk (trim s)) = .ok a ↔
          ∃ n, q.toBaseUnits decimals = .ok n ∧ a = ⟨trim s, n⟩ := by
        cases q.toBaseUnits decimals <;> simp [Except.map, eq_comm]
      rw [hmap]
      simp only [Quantity.toBaseUnits_eq_ok_iff, Quantity.scaled_eq_floor hfraction]
      constructor
      · rintro ⟨n, ⟨hlt, rfl⟩, rfl⟩
        exact ⟨Nat.not_lt.mp hscale, q.toRat, ⟨q, rfl, rfl⟩, hlt, rfl⟩
      · rintro ⟨-, r, ⟨_, rfl, rfl⟩, hlt, rfl⟩
        exact ⟨_, ⟨hlt, rfl⟩, rfl⟩

/-- Reading does not look at blanks around the text. -/
theorem parse_trim (s : String) (decimals : Nat) : parse (trim s) decimals = parse s decimals := by
  simp only [parse, trim_trim]

end Amount

end TokenLaunch
