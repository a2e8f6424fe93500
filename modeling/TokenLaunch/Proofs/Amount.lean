import TokenLaunch.Proofs.Quantity

/-!
# Exact amounts

An amount is read from the rational that its text stands for, and from nothing else in the text: it is
the whole base units in that rational, it is never reduced by a word, and it is given up only where it
does not fit one.
-/

namespace TokenLaunch

open Text

/-- A text stands for one rational at most. -/
theorem Text.Denotes.unique {cs : List Char} {q r : ℚ} (hq : Denotes cs q) (hr : Denotes cs r) :
    q = r := by
  obtain ⟨x, hx, rfl⟩ := Quantity.denotes_iff.mp hq
  obtain ⟨y, hy, rfl⟩ := Quantity.denotes_iff.mp hr
  rw [Option.some.inj (hx.symm.trans hy)]

/-- The whole base units in a quantity. -/
def wholeUnits (decimals : Nat) (q : ℚ) : Nat := ⌊q * 10 ^ decimals⌋₊

theorem wholeUnits_mono (decimals : Nat) {q r : ℚ} (h : q ≤ r) :
    wholeUnits decimals q ≤ wholeUnits decimals r :=
  Nat.floor_le_floor (mul_le_mul_of_nonneg_right h (by positivity))

namespace Quantity

theorem toBaseUnits_eq (q : Quantity) (decimals : Nat) :
    q.toBaseUnits decimals =
      if q.scaled decimals < wordBound then .ok (q.scaled decimals) else .error .wordOverflow := by
  split
  · rename_i hlt
    exact (toBaseUnits_eq_ok_iff q decimals _).mpr ⟨hlt, rfl⟩
  · rename_i hge
    exact if_neg fun hfits => hge hfits.2

/-- Digits beyond the last decimal are not looked at. -/
theorem scaled_append (whole fraction : List Char) {decimals : Nat}
    (h : decimals ≤ fraction.length) (surplus : List Char) :
    scaled ⟨whole, fraction ++ surplus⟩ decimals = scaled ⟨whole, fraction⟩ decimals := by
  simp only [scaled, List.take_append_of_le_length h]

theorem wholeUnits_eq_scaled {cs : List Char} {q : Quantity} (h : ofChars? cs = some q)
    (decimals : Nat) : wholeUnits decimals q.toRat = q.scaled decimals := by
  refine (scaled_eq_floor ?_ decimals).symm
  obtain ⟨-, ⟨hnil, -⟩ | ⟨hdigits, -⟩⟩ := ofChars?_eq_some h
  · simp [hnil]
  · exact hdigits.2

end Quantity

namespace Amount

/-- What is read of a text that stands for a rational, and why it may be nothing. -/
theorem map_baseUnits_parse {s : String} {q : ℚ} (h : Denotes (trim s).toList q) (decimals : Nat) :
    (parse s decimals).map baseUnits =
      if maxDecimals < decimals then .error (.scale decimals)
      else if wholeUnits decimals q < wordBound then .ok (wholeUnits decimals q)
      else .error .wordOverflow := by
  obtain ⟨x, hx, rfl⟩ := Quantity.denotes_iff.mp h
  simp only [parse, hx, Quantity.toBaseUnits_eq, Quantity.wholeUnits_eq_scaled hx]
  split
  · rfl
  · split <;> rfl

/-- How exactly amounts are read at so many decimals. -/
structure Exact (decimals : Nat) : Prop where
  /-- A text is an amount if it is digits, with or without a point and digits behind it, and if the
  whole base units in what it stands for fit a word. -/
  reads (s : String) (a : Amount) : parse s decimals = .ok a ↔
    decimals ≤ 77 ∧ ∃ q, Denotes (trim s).toList q ∧ wholeUnits decimals q < 2 ^ 256 ∧
      a = ⟨trim s, wholeUnits decimals q⟩
  /-- A text that is no amount for want of such digits is told from the others. -/
  notDecimal (s : String) : parse s decimals = .error .notDecimal ↔ ¬ ∃ q, Denotes (trim s).toList q
  denotes_unique (s : String) (q r : ℚ) (hq : Denotes (trim s).toList q)
    (hr : Denotes (trim s).toList r) : q = r
  /-- Spellings of one quantity are read alike, and so are the faults in them. -/
  respelled (s t : String) (q : ℚ) (hs : Denotes (trim s).toList q)
    (ht : Denotes (trim t).toList q) :
    (parse s decimals).map baseUnits = (parse t decimals).map baseUnits
  /-- Less than an amount is an amount, and not a larger one. -/
  monotone (s t : String) (q r : ℚ) (b : Amount) (hs : Denotes (trim s).toList q)
    (ht : Denotes (trim t).toList r) (hle : q ≤ r) (hb : parse t decimals = .ok b) :
    ∃ a, parse s decimals = .ok a ∧ a.baseUnits ≤ b.baseUnits
  /-- Digits behind the last decimal change nothing. -/
  surplus (s t : String) (whole fraction more : List Char)
    (hs : (trim s).toList = whole ++ '.' :: fraction)
    (ht : (trim t).toList = whole ++ '.' :: (fraction ++ more)) (hwhole : IsDigits whole)
    (hfraction : IsDigits fraction) (hmore : ∀ c ∈ more, c.isDigit = true)
    (hlength : decimals ≤ fraction.length) :
    (parse s decimals).map baseUnits = (parse t decimals).map baseUnits

theorem parse_eq_notDecimal_iff {s : String} {decimals : Nat} :
    parse s decimals = .error .notDecimal ↔ ¬ ∃ q, Denotes (trim s).toList q := by
  constructor
  · rintro h ⟨q, hq⟩
    have hmap := map_baseUnits_parse hq decimals
    rw [h] at hmap
    split at hmap
    · cases hmap
    · split at hmap <;> cases hmap
  · intro h
    cases hread : Quantity.ofChars? (trim s).toList with
    | none => simp only [parse, hread]
    | some x => exact absurd ⟨_, Quantity.denotes_iff.mpr ⟨x, hread, rfl⟩⟩ h

/-- Where the whole base units in two quantities are the same, so is what is read. -/
theorem map_baseUnits_parse_congr {s t : String} {q r : ℚ} {decimals : Nat}
    (hs : Denotes (trim s).toList q) (ht : Denotes (trim t).toList r)
    (h : wholeUnits decimals q = wholeUnits decimals r) :
    (parse s decimals).map baseUnits = (parse t decimals).map baseUnits := by
  rw [map_baseUnits_parse hs, map_baseUnits_parse ht, h]

/-- Amounts are read exactly. -/
theorem exact_parse (decimals : Nat) : Exact decimals where
  reads s a := parse_eq_ok_iff s decimals a
  notDecimal _ := parse_eq_notDecimal_iff
  denotes_unique _ _ _ hq hr := hq.unique hr
  respelled _ _ _ hs ht := map_baseUnits_parse_congr hs ht rfl
  monotone := by
    intro s t q r b hs ht hle hb
    obtain ⟨hdecimals, r', hr', hlt, rfl⟩ := (parse_eq_ok_iff _ _ _).mp hb
    obtain rfl := ht.unique hr'
    have hunits := wholeUnits_mono decimals hle
    exact ⟨_, (parse_eq_ok_iff _ _ _).mpr ⟨hdecimals, q, hs, hunits.trans_lt hlt, rfl⟩, hunits⟩
  surplus := by
    intro s t whole fraction more hs ht hwhole hfraction hmore hlength
    have hdigits : IsDigits (fraction ++ more) :=
      ⟨List.append_ne_nil_of_left_ne_nil hfraction.1 more,
        List.forall_mem_append.mpr ⟨hfraction.2, hmore⟩⟩
    have hshort := Quantity.ofChars?_point hwhole hfraction
    have hlong := Quantity.ofChars?_point hwhole hdigits
    rw [← hs] at hshort
    rw [← ht] at hlong
    refine map_baseUnits_parse_congr (Quantity.denotes_iff.mpr ⟨_, hshort, rfl⟩)
      (Quantity.denotes_iff.mpr ⟨_, hlong, rfl⟩) ?_
    rw [Quantity.wholeUnits_eq_scaled hshort, Quantity.wholeUnits_eq_scaled hlong,
      Quantity.scaled_append whole fraction hlength more]

end Amount

end TokenLaunch
