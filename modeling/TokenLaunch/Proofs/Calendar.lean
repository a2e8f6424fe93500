import Mathlib.Tactic.Common
import Mathlib.Tactic.IntervalCases
import TokenLaunch.Instant

/-!
# The calendar

Every day has a date of the Gregorian calendar, and is the day of that date.  Days are counted in
rounds of four hundred years that begin in March, so that a leap day is the last of its year.
-/

namespace TokenLaunch.Date

/-- A day stands in a round: in one of its centuries, in one of the fours of years of this, in one
of these years, on one of its days.  The year with one day more is the last of its four, and where
the four is the last of its century, that is the last of its round. -/
structure Stands (day century four year dayOfYear : Int) : Prop where
  century_nonneg : 0 ≤ century
  century_le : century ≤ 3
  four_nonneg : 0 ≤ four
  four_le : four ≤ 24
  year_nonneg : 0 ≤ year
  year_le : year ≤ 3
  day_nonneg : 0 ≤ dayOfYear
  day_le : dayOfYear ≤ 365
  leap : dayOfYear = 365 → year = 3 ∧ (four = 24 → century = 3)
  eq : day = 36524 * century + 1461 * four + 365 * year + dayOfYear

theorem exists_stands {day : Int} (hnonneg : 0 ≤ day) (hlt : day < 146097) :
    ∃ c q y v, Stands day c q y v := by
  -- the last day of all is one more than four even centuries hold
  have hcentury : ∃ c t : Int, 0 ≤ c ∧ c ≤ 3 ∧ 0 ≤ t ∧ t ≤ 36524 ∧ (t = 36524 → c = 3) ∧
      day = 36524 * c + t := by
    by_cases hlast : day = 146096
    · exact ⟨3, 36524, by omega⟩
    · exact ⟨day / 36524, day % 36524, by omega⟩
  obtain ⟨c, t, hc₀, hc₃, ht₀, ht, hround, hday⟩ := hcentury
  have hyear : ∃ y v : Int, 0 ≤ y ∧ y ≤ 3 ∧ 0 ≤ v ∧ v ≤ 365 ∧ (v = 365 → y = 3) ∧
      t % 1461 = 365 * y + v := by
    by_cases hlast : t % 1461 = 1460
    · exact ⟨3, 365, by omega⟩
    · exact ⟨t % 1461 / 365, t % 1461 % 365, by omega⟩
  obtain ⟨y, v, hy₀, hy₃, hv₀, hv, hleap, hfour⟩ := hyear
  exact ⟨c, t / 1461, y, v, hc₀, hc₃, by omega, by omega, hy₀, hy₃, hv₀, hv, by omega, by omega⟩

namespace Stands

variable {day c q y v : Int} (h : Stands day c q y v)

include h

theorem nonneg : 0 ≤ day := by
  obtain ⟨hc, -, hq, -, hy, -, hv, -, -, heq⟩ := h
  omega

theorem lt : day < 146097 := by
  obtain ⟨-, hc, -, hq, -, hy, -, hv, hleap, heq⟩ := h
  omega

/-- The days that leap years are longer by are left out before years are counted. -/
theorem yearOfRound_eq :
    (day - day / 1460 + day / 36524 - day / 146096) / 365 = 100 * c + 4 * q + y := by
  obtain ⟨hc₀, hc₃, hq₀, hq, hy₀, hy₃, hv₀, hv, hleap, heq⟩ := h
  obtain rfl | hlast := eq_or_ne day 146096
  · omega
  · have hround : day / 146096 = 0 := by omega
    have hcentury : day / 36524 = c := by omega
    have hcycle : day / 1460 = 25 * c + q + (24 * c + q + 365 * y + v) / 1460 := by omega
    rw [hround, hcentury, hcycle]
    omega

theorem dayOfYear_eq :
    day - (365 * (100 * c + 4 * q + y) + (100 * c + 4 * q + y) / 4 - (100 * c + 4 * q + y) / 100) =
      v := by
  obtain ⟨hc₀, hc₃, hq₀, hq, hy₀, hy₃, hv₀, hv, hleap, heq⟩ := h
  have hfours : (100 * c + 4 * q + y) / 4 = 25 * c + q := by omega
  have hcenturies : (100 * c + 4 * q + y) / 100 = c := by omega
  rw [hfours, hcenturies]
  omega

/-- The months from March on have 153 days in five of them. -/
theorem monthOfYear_bounds : 0 ≤ (5 * v + 2) / 153 ∧ (5 * v + 2) / 153 ≤ 11 := by
  obtain ⟨-, -, -, -, -, -, hv₀, hv, -, -⟩ := h
  omega

theorem isLeap_of_eq (hv : v = 365) (r : Int) :
    isLeap (400 * r + (100 * c + 4 * q + y) + 1) = true := by
  obtain ⟨hy, hcentury⟩ := h.leap hv
  have hq₀ := h.four_nonneg
  have hq := h.four_le
  simp only [isLeap, decide_eq_true_eq]
  refine ⟨by omega, ?_⟩
  by_cases hlast : q = 24
  · have hc := hcentury hlast
    exact .inr (by omega)
  · exact .inl (by omega)

end Stands

/-- The date of a day, by its place in its round.  January and February are in the year that
follows. -/
theorem ofDay_eq {day r dayOfRound c q y v : Int} (h : Stands dayOfRound c q y v)
    (hday : day + 719468 = 146097 * r + dayOfRound) : ofDay day =
      if (5 * v + 2) / 153 < 10 then
        ⟨400 * r + (100 * c + 4 * q + y), ((5 * v + 2) / 153 + 3).toNat,
          (v - (153 * ((5 * v + 2) / 153) + 2) / 5 + 1).toNat⟩
      else
        ⟨400 * r + (100 * c + 4 * q + y) + 1, ((5 * v + 2) / 153 - 9).toNat,
          (v - (153 * ((5 * v + 2) / 153) + 2) / 5 + 1).toNat⟩ := by
  have hnonneg := h.nonneg
  have hlt := h.lt
  have hround : (day + 719468) / 146097 = r := by omega
  have hrest : (day + 719468) % 146097 = dayOfRound := by omega
  have hmonth := h.monthOfYear_bounds
  simp only [ofDay, hround, hrest, h.yearOfRound_eq, h.dayOfYear_eq]
  generalize (5 * v + 2) / 153 = m at hmonth ⊢
  split
  · have hlate : ¬ m + 3 ≤ 2 := by omega
    rw [if_neg hlate]
    congr 1
    omega
  · have hearly : m - 9 ≤ 2 := by omega
    rw [if_pos hearly]
    congr 1
    omega

theorem exists_stands_of_day (day : Int) : ∃ r dayOfRound c q y v,
    Stands dayOfRound c q y v ∧ day + 719468 = 146097 * r + dayOfRound := by
  have hnonneg : 0 ≤ (day + 719468) % 146097 := by omega
  obtain ⟨c, q, y, v, h⟩ := exists_stands hnonneg (by omega)
  exact ⟨(day + 719468) / 146097, _, c, q, y, v, h, by omega⟩

/-- The day of a date in the round with the number `r`, from its year, the month from March on and
the day of that year. -/
theorem toDay_eq {year r m v : Int} {month day : Nat}
    (hyear : (if month ≤ 2 then year - 1 else year) = r)
    (hmonth : (if 2 < month then (month : Int) - 3 else month + 9) = m)
    (hday : (153 * m + 2) / 5 + day - 1 = v) :
    toDay ⟨year, month, day⟩ =
      r / 400 * 146097 + (r % 400 * 365 + r % 400 / 4 - r % 400 / 100 + v) - 719468 := by
  simp only [toDay, hyear, hmonth, hday]

/-- The day of the date of a day is the day. -/
theorem toDay_ofDay (day : Int) : toDay (ofDay day) = day := by
  obtain ⟨r, dayOfRound, c, q, y, v, h, hday⟩ := exists_stands_of_day day
  have hmonth := h.monthOfYear_bounds
  have hrest := h.dayOfYear_eq
  have hround : (400 * r + (100 * c + 4 * q + y)) / 400 = r ∧
      (400 * r + (100 * c + 4 * q + y)) % 400 = 100 * c + 4 * q + y := by
    obtain ⟨hc₀, hc₃, hq₀, hq, hy₀, hy₃, -, -, -, -⟩ := h
    omega
  have hpositive : 0 ≤ v - (153 * ((5 * v + 2) / 153) + 2) / 5 := by
    have hv := h.day_nonneg
    omega
  rw [ofDay_eq h hday]
  generalize (5 * v + 2) / 153 = m at hmonth hpositive ⊢
  split
  · rw [toDay_eq (r := 400 * r + (100 * c + 4 * q + y)) (m := m) (v := v)]
    · omega
    · rw [if_neg (by omega)]
    · rw [if_pos (by omega)]
      omega
    · omega
  · rw [toDay_eq (r := 400 * r + (100 * c + 4 * q + y)) (m := m) (v := v)]
    · omega
    · rw [if_pos (by omega)]
      omega
    · rw [if_neg (by omega)]
      omega
    · omega

/-- The months from March on have their lengths, and the last of them is as long as the year is. -/
theorem dayOfMonth_le (year : Int) {v m : Int} (hv₀ : 0 ≤ v) (hv : v ≤ 365)
    (hm : (5 * v + 2) / 153 = m) (hleap : v = 365 → isLeap year = true) :
    (v - (153 * m + 2) / 5 + 1).toNat ≤
      monthLength year (if m < 10 then m + 3 else m - 9).toNat := by
  have hm₀ : 0 ≤ m := by omega
  have hm₁₁ : m ≤ 11 := by omega
  by_cases hlast : m = 11
  · subst hlast
    have hfebruary : monthLength year ((11 : Int) - 9).toNat = if isLeap year then 29 else 28 := rfl
    rw [if_neg (by decide), hfebruary]
    split
    · omega
    · rename_i hcommon
      have hne : v ≠ 365 := fun heq => hcommon (hleap heq)
      omega
  · interval_cases m <;> simp [monthLength] <;> omega

theorem isValid_ofDay (day : Int) : isValid (ofDay day) = true := by
  obtain ⟨r, dayOfRound, c, q, y, v, h, hday⟩ := exists_stands_of_day day
  obtain ⟨hm₀, hm₁₁⟩ := h.monthOfYear_bounds
  have hlength (year : Int) := dayOfMonth_le year h.day_nonneg h.day_le rfl
  have hpositive : 1 ≤ (v - (153 * ((5 * v + 2) / 153) + 2) / 5 + 1).toNat := by
    have hv := h.day_nonneg
    omega
  have hlast (hmonth : (5 * v + 2) / 153 < 10) : v ≠ 365 := by omega
  rw [ofDay_eq h hday]
  split
  · rename_i hmonth
    have hle := hlength (400 * r + (100 * c + 4 * q + y)) fun heq =>
      absurd heq (hlast hmonth)
    rw [if_pos hmonth] at hle
    simp only [isValid, decide_eq_true_eq]
    exact ⟨by omega, by omega, hpositive, hle⟩
  · rename_i hmonth
    have hle := hlength _ fun heq => h.isLeap_of_eq heq r
    rw [if_neg hmonth] at hle
    simp only [isValid, decide_eq_true_eq]
    exact ⟨by omega, by omega, hpositive, hle⟩

end TokenLaunch.Date
