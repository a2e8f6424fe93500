import Mathlib.Data.List.TakeWhile
import TokenLaunch.Proofs.Calendar
import TokenLaunch.Proofs.Decimal

/-!
# Instants and their texts

A moment is written in universal time and read back from there.  Whatever text a moment is read of,
it is one of those that can be written.
-/

namespace TokenLaunch.Instant

open Text

/-- The moments that texts tell: days in range, and leap seconds at the end of a minute only. -/
structure IsMoment (t : Instant) : Prop where
  day : inRange t.day = true
  second : t.second < 86400
  nano : t.nano < 1000000000 ∨ t.second % 60 = 59 ∧ t.nano < 2000000000

instance (t : Instant) : Decidable t.IsMoment :=
  decidable_of_iff (inRange t.day = true ∧ t.second < 86400 ∧
      (t.nano < 1000000000 ∨ t.second % 60 = 59 ∧ t.nano < 2000000000))
    ⟨fun ⟨h₁, h₂, h₃⟩ => ⟨h₁, h₂, h₃⟩, fun ⟨h₁, h₂, h₃⟩ => ⟨h₁, h₂, h₃⟩⟩

variable {cs rest : List Char} {t : Instant} {width n : Nat}

/-! ## Numbers of a width -/

/-- So many digits. -/
def Digits (width : Nat) (cs : List Char) : Prop :=
  cs.length = width ∧ ∀ c ∈ cs, c.isDigit = true

theorem isDigit_of_mem_padded {c : Char} (h : c ∈ padded width n) : c.isDigit = true := by
  rcases List.mem_append.mp h with hzero | hdigit
  · obtain rfl := List.eq_of_mem_replicate hzero
    rfl
  · exact Nat.isDigit_of_mem_toDigits (by decide) (by decide) hdigit

theorem digits_padded (hwidth : 0 < width) (h : n < 10 ^ width) :
    Digits width (padded width n) := by
  refine ⟨?_, fun c => isDigit_of_mem_padded⟩
  have hlength := (Nat.length_toDigits_le_iff (by decide) hwidth).mpr h
  rw [padded, List.length_append, List.length_replicate]
  exact Nat.sub_add_cancel hlength

theorem padded_ne_nil (width n : Nat) : padded width n ≠ [] :=
  List.append_ne_nil_of_right_ne_nil _ Nat.toDigits_ne_nil

theorem number_padded (width n : Nat) : number (padded width n) = n := by
  have hzeros (k : Nat) : number (List.replicate k '0') = 0 := by
    induction k with
    | zero => rfl
    | succ k ih => rw [List.replicate_succ', number_append_singleton, ih]; rfl
  have hdigits := number_decimal n
  rw [decimal, String.toList_ofList] at hdigits
  rw [padded, number_append, hzeros, hdigits, Nat.zero_mul, Nat.zero_add]

/-! ## Readers -/

theorem not_isBlank_of_isDigit {c : Char} (h : c.isDigit = true) : isBlank c = false := by
  have hrange : 48 ≤ c.toNat ∧ c.toNat ≤ 57 := Char.isDigit_iff_toNat.mp h
  simp only [isBlank, Bool.or_eq_false_iff, Bool.and_eq_false_iff, decide_eq_false_iff_not,
    beq_eq_false_iff_ne]
  omega

theorem trimLeft_eq_self {c : Char} (h : isBlank c = false) : trimLeft (c :: cs) = c :: cs := by
  simp [trimLeft, h]

theorem trimLeft_padded_append (width n : Nat) (rest : List Char) :
    trimLeft (padded width n ++ rest) = padded width n ++ rest := by
  obtain ⟨c, cs, hcs⟩ := List.exists_cons_of_ne_nil (padded_ne_nil width n)
  have hc : c ∈ padded width n := hcs ▸ List.mem_cons_self
  rw [hcs]
  exact trimLeft_eq_self (not_isBlank_of_isDigit (isDigit_of_mem_padded hc))

theorem readNumber_padded (hwidth : 0 < width) (h : n < 10 ^ width) (rest : List Char) :
    readNumber (some width) (padded width n ++ rest) = some (n, rest) := by
  obtain ⟨hlength, hdigits⟩ := digits_padded hwidth h
  have hwindow : (padded width n ++ rest).take width = padded width n := List.take_left' hlength
  have htake : (padded width n).takeWhile Char.isDigit = padded width n := by
    simpa using (takeWhile_isDigit [] hdigits (by simp)).1
  simp [readNumber, hwindow, htake, padded_ne_nil, number_padded]

theorem readNumber_none_padded (hrest : ∀ c ∈ rest.head?, c.isDigit = false) :
    readNumber none (padded width n ++ rest) = some (n, rest) := by
  have hdigits : ∀ c ∈ padded width n, c.isDigit = true := fun c => isDigit_of_mem_padded
  obtain ⟨htake, -⟩ := takeWhile_isDigit rest hdigits hrest
  simp [readNumber, htake, padded_ne_nil, number_padded]

theorem readField_padded (h : n < 100) (rest : List Char) :
    readField (padded 2 n ++ rest) = some (n, rest) := by
  rw [readField, trimLeft_padded_append]
  exact readNumber_padded (by decide) h rest

theorem readSign_cons {c : Char} (h : isBlank c = false) (rest : List Char) :
    readSign c (c :: rest) = some rest := by
  simp [readSign, trimLeft_eq_self h]

theorem readYear_digits (h : n < 10 ^ 4) (rest : List Char) :
    readYear (padded 4 n ++ rest) = some ((n : Int), rest) := by
  obtain ⟨c, cs, hcs⟩ := List.exists_cons_of_ne_nil (padded_ne_nil 4 n)
  have hdigit : c.isDigit = true := isDigit_of_mem_padded (hcs ▸ List.mem_cons_self)
  have hminus : c ≠ '-' := fun heq => by simp [heq] at hdigit
  have hplus : c ≠ '+' := fun heq => by simp [heq] at hdigit
  have hread := readNumber_padded (by decide) h rest
  have htrim := trimLeft_padded_append 4 n rest
  rw [hcs, List.cons_append] at hread htrim ⊢
  simp [readYear, htrim, hread, hminus, hplus]

theorem readYear_minus (hrest : ∀ c ∈ rest.head?, c.isDigit = false) :
    readYear ('-' :: (padded 4 n ++ rest)) = some (-(n : Int), rest) := by
  simp [readYear, trimLeft_eq_self (c := '-') rfl, readNumber_none_padded hrest]

theorem readYear_plus (hrest : ∀ c ∈ rest.head?, c.isDigit = false) :
    readYear ('+' :: (padded 4 n ++ rest)) = some ((n : Int), rest) := by
  simp [readYear, trimLeft_eq_self (c := '+') rfl, readNumber_none_padded hrest]

theorem readYear_yearChars (year : Int) (hrest : ∀ c ∈ rest.head?, c.isDigit = false) :
    readYear (yearChars year ++ rest) = some (year, rest) := by
  by_cases hfour : 0 ≤ year ∧ year ≤ 9999
  · rw [yearChars, if_pos hfour, readYear_digits (by omega), Int.toNat_of_nonneg hfour.1]
  · rw [yearChars, if_neg hfour, List.cons_append]
    by_cases hnegative : year < 0
    · rw [if_pos hnegative, readYear_minus hrest]
      exact congrArg (fun y => some (y, rest)) (by omega)
    · rw [if_neg hnegative, readYear_plus hrest]
      exact congrArg (fun y => some (y, rest)) (by omega)

theorem readFraction_padded (hwidth : 0 < width) (hnine : width ≤ 9) (h : n < 10 ^ width)
    (hrest : ∀ c ∈ rest.head?, c.isDigit = false) :
    readFraction ('.' :: (padded width n ++ rest)) = some (n * tenTo (9 - width), rest) := by
  obtain ⟨hlength, hdigits⟩ := digits_padded hwidth h
  obtain ⟨htake, hdrop⟩ := takeWhile_isDigit rest hdigits hrest
  have hkept : (padded width n).take 9 = padded width n :=
    List.take_of_length_le (hlength.trans_le hnine)
  simp [readFraction, htake, hdrop, hkept, hlength, padded_ne_nil, number_padded]

theorem readFraction_fractionChars {nano : Nat} (h : nano < 10 ^ 9) (rest : List Char)
    (hrest : ∀ c ∈ rest.head?, c.isDigit = false ∧ c ≠ '.') :
    readFraction (fractionChars nano ++ rest) = some (nano, rest) := by
  have hdigit : ∀ c ∈ rest.head?, c.isDigit = false := fun c hc => (hrest c hc).1
  unfold fractionChars
  split
  · rename_i hzero
    subst hzero
    cases rest with
    | nil => rfl
    | cons c cs =>
      have hpoint : c ≠ '.' := (hrest c rfl).2
      simp [readFraction, hpoint]
  · split
    · rename_i hmod
      rw [List.cons_append, readFraction_padded (by decide) (by decide) (by omega) hdigit]
      exact congrArg (fun n => some (n, rest)) (Nat.div_mul_cancel (Nat.dvd_of_mod_eq_zero hmod))
    · split
      · rename_i hmod
        rw [List.cons_append, readFraction_padded (by decide) (by decide) (by omega) hdigit]
        exact congrArg (fun n => some (n, rest)) (Nat.div_mul_cancel (Nat.dvd_of_mod_eq_zero hmod))
      · rw [List.cons_append, readFraction_padded (by decide) (by decide) h hdigit]
        exact congrArg (fun n => some (n, rest)) (Nat.mul_one nano)

/-! ## Written texts are read -/

theorem readOffset_zulu : readOffset ['Z'] = some (0, []) := by
  have hword : sameWord (String.ofList ['Z']) "UTC" = false := by decide +kernel
  simp [readOffset, hword]

/-- A text in universal time is read part by part. -/
theorem ofChars?_parts {ys ms ds hs is ss fs : List Char} {year : Int}
    {month day hour minute second nano : Nat}
    (hyear : ∀ rest, readYear (ys ++ '-' :: rest) = some (year, '-' :: rest))
    (hmonth : ∀ rest, readField (ms ++ rest) = some (month, rest))
    (hday : ∀ rest, readField (ds ++ rest) = some (day, rest))
    (hhour : ∀ rest, readField (hs ++ rest) = some (hour, rest))
    (hminute : ∀ rest, readField (is ++ rest) = some (minute, rest))
    (hsecond : ∀ rest, readField (ss ++ rest) = some (second, rest))
    (hnano : readFraction (fs ++ ['Z']) = some (nano, ['Z'])) :
    ofChars? (ys ++ '-' :: ms ++ '-' :: ds ++ 'T' :: hs ++ ':' :: is ++ ':' :: (ss ++ fs)
        ++ ['Z']) =
      ofParts ⟨year, month, day⟩ hour minute second nano 0 := by
  have hread {α β : Type} {x : Option α} {a : α} {f : α → Option β} (hx : x = some a) :
      x >>= f = f a := hx ▸ rfl
  have hhyphen (rest : List Char) : readSign '-' ('-' :: rest) = some rest := readSign_cons rfl rest
  have hcolon (rest : List Char) : readSign ':' (':' :: rest) = some rest := readSign_cons rfl rest
  simp only [List.append_assoc, List.cons_append]
  refine (hread (hyear _)).trans <| (hread (hhyphen _)).trans <| (hread (hmonth _)).trans <|
    (hread (hhyphen _)).trans <| (hread (hday _)).trans <| (if_pos rfl).trans ?_
  refine (hread (hhour _)).trans <| (hread (hcolon _)).trans <| (hread (hminute _)).trans <|
    (hread (hcolon _)).trans <| (hread (hsecond _)).trans <| (hread hnano).trans ?_
  exact (hread readOffset_zulu).trans (if_pos rfl)

theorem ofParts_parts (h : t.IsMoment) :
    ofParts (Date.ofDay t.day) (t.second / 3600) (t.second / 60 % 60)
      (t.second % 60 + t.nano / 1000000000) (t.nano % 1000000000) 0 = some t := by
  obtain ⟨day, second, nano⟩ := t
  obtain ⟨hday, hsecond, hnano⟩ := h
  simp only at hday hsecond hnano ⊢
  have hbounds : second / 3600 < 24 ∧ second / 60 % 60 < 60 ∧
      second % 60 + nano / 1000000000 ≤ 60 := by omega
  -- the sixtieth second is the one before it again, and the second of the leap
  have hleap : (if second % 60 + nano / 1000000000 = 60 then 1 else 0) = nano / 1000000000 := by
    split <;> omega
  have hshifted : ((second / 3600 : Nat) * 3600 + (second / 60 % 60 : Nat) * 60 +
      (second % 60 + nano / 1000000000 - nano / 1000000000 : Nat) : Int) - 0 = second := by omega
  have hsame : day + (second : Int) / 86400 = day ∧ ((second : Int) % 86400).toNat = second ∧
      nano % 1000000000 + nano / 1000000000 * 1000000000 = nano := by omega
  rw [ofParts, if_pos ⟨Date.isValid_ofDay day, by rwa [Date.toDay_ofDay], hbounds.1, hbounds.2.1,
    hbounds.2.2, by decide⟩]
  simp only [hleap, hshifted, Date.toDay_ofDay, hsame, hday, if_true]

/-- The months and days of a date have two digits at most. -/
theorem lt_of_isValid {d : Date} (h : d.isValid = true) : d.month < 100 ∧ d.day < 100 := by
  simp only [Date.isValid, decide_eq_true_eq] at h
  obtain ⟨-, hmonth, -, hday⟩ := h
  have hlength : Date.monthLength d.year d.month ≤ 31 := by
    unfold Date.monthLength
    repeat' split
    all_goals decide
  omega

/-- The text of a moment is read as this moment. -/
theorem ofText?_text (h : t.IsMoment) : ofText? t.text = some t := by
  obtain ⟨hmonth, hday⟩ := lt_of_isValid (Date.isValid_ofDay t.day)
  have hsecond := h.second
  have hnano := h.nano
  rw [ofText?, text, String.toList_ofList, chars, secondChars]
  refine (ofChars?_parts (fun rest => readYear_yearChars _ (by simp)) (readField_padded hmonth)
    (readField_padded hday) (readField_padded (by omega)) (readField_padded (by omega))
    (readField_padded (by omega)) ?_).trans (ofParts_parts h)
  exact readFraction_fractionChars (Nat.mod_lt _ (by decide)) ['Z'] (by simp)

/-! ## The form of written texts -/

/-- The digits of a year: four, or four and more after a sign where four cannot tell it. -/
inductive IsYear (year : Int) : List Char → Prop
  | plain (h : 0 ≤ year ∧ year ≤ 9999) {ds : List Char} (hdigits : Digits 4 ds) : IsYear year ds
  | signed (h : ¬ (0 ≤ year ∧ year ≤ 9999)) {sign : Char} {ds : List Char}
      (hsign : sign = if year < 0 then '-' else '+') (hlength : 4 ≤ ds.length)
      (hdigits : ∀ c ∈ ds, c.isDigit = true) : IsYear year (sign :: ds)

/-- The fraction of a second: nothing, or thousandths, millionths or thousand millionths. -/
inductive IsFraction : List Char → Prop
  | whole : IsFraction []
  | point {width : Nat} {ds : List Char} (hwidth : width ∈ [3, 6, 9]) (hdigits : Digits width ds) :
      IsFraction ('.' :: ds)

/-- A date and a time of day in universal time, which the letter `Z` at the end says. -/
inductive IsZulu (year : Int) : List Char → Prop
  | mk {ys month day hour minute second fraction : List Char} (hyear : IsYear year ys)
      (hmonth : Digits 2 month) (hday : Digits 2 day) (hhour : Digits 2 hour)
      (hminute : Digits 2 minute) (hsecond : Digits 2 second) (hfraction : IsFraction fraction) :
      IsZulu year (ys ++ '-' :: month ++ '-' :: day ++ 'T' :: hour ++ ':' :: minute
        ++ ':' :: (second ++ fraction) ++ ['Z'])

theorem isYear_yearChars (year : Int) : IsYear year (yearChars year) := by
  unfold yearChars
  split
  · rename_i h
    exact .plain h (digits_padded (by decide) (by omega))
  · rename_i h
    have hlength : 4 ≤ (padded 4 year.natAbs).length := by
      rw [padded, List.length_append, List.length_replicate]
      omega
    exact .signed h rfl hlength fun c => isDigit_of_mem_padded

theorem isFraction_fractionChars {nano : Nat} (h : nano < 10 ^ 9) :
    IsFraction (fractionChars nano) := by
  have hpoint {width n : Nat} (hwidth : width ∈ [3, 6, 9]) (hn : n < 10 ^ width) :
      IsFraction ('.' :: padded width n) := by
    have hpos : 0 < width := Nat.pos_of_ne_zero fun hzero => absurd (hzero ▸ hwidth) (by decide)
    exact .point hwidth (digits_padded hpos hn)
  unfold fractionChars
  repeat' split
  · exact .whole
  · exact hpoint (by decide) (by omega)
  · exact hpoint (by decide) (by omega)
  · exact hpoint (by decide) h

theorem isZulu_text (h : t.IsMoment) : IsZulu (Date.ofDay t.day).year t.text.toList := by
  obtain ⟨hmonth, hday⟩ := lt_of_isValid (Date.isValid_ofDay t.day)
  have hsecond := h.second
  have hnano := h.nano
  have htwo {n : Nat} (hn : n < 100) : Digits 2 (padded 2 n) := digits_padded (by decide) hn
  rw [text, String.toList_ofList]
  exact .mk (isYear_yearChars _) (htwo hmonth) (htwo hday) (htwo (by omega)) (htwo (by omega))
    (htwo (by omega)) (isFraction_fractionChars (by omega))

/-! ## What is read -/

theorem number_mul_tenTo_lt (h : ∀ c ∈ cs, c.isDigit = true) (hwidth : cs.length ≤ width) :
    number cs * tenTo (width - cs.length) < 10 ^ width := by
  have hlt := number_lt h
  calc number cs * tenTo (width - cs.length)
      < 10 ^ cs.length * 10 ^ (width - cs.length) :=
        Nat.mul_lt_mul_of_pos_right hlt (tenTo_pos _)
    _ = 10 ^ width := by rw [← pow_add, Nat.add_sub_cancel' hwidth]

theorem lt_of_readFraction {nano : Nat} (h : readFraction cs = some (nano, rest)) :
    nano < 10 ^ 9 := by
  unfold readFraction at h
  split at h
  · rename_i ds
    simp only at h
    split at h
    · cases h
    · obtain ⟨rfl, -⟩ := Prod.mk.inj (Option.some.inj h)
      exact number_mul_tenTo_lt (fun c hc => List.mem_takeWhile_imp (List.mem_of_mem_take hc))
        (List.length_take_le 9 _)
  · obtain ⟨rfl, -⟩ := Prod.mk.inj (Option.some.inj h)
    decide

theorem mod_of_readHours {n : Nat} (h : readHours cs = some (n, rest)) : n % 60 = 0 := by
  unfold readHours at h
  repeat' split at h <;> try contradiction
  obtain ⟨rfl, -⟩ := Prod.mk.inj (Option.some.inj h)
  omega

/-- Offsets are whole minutes. -/
theorem mod_of_readOffset {offset : Int} (h : readOffset cs = some (offset, rest)) :
    offset % 60 = 0 := by
  have hsigned {rest' : List Char} {f : Nat → Int} (hf : ∀ n, n % 60 = 0 → f n % 60 = 0)
      (hmap : (readHours rest').map (fun p => (f p.1, p.2)) = some (offset, rest)) :
      offset % 60 = 0 := by
    obtain ⟨⟨n, _⟩, hread, heq⟩ := Option.map_eq_some_iff.mp hmap
    obtain ⟨rfl, -⟩ := Prod.mk.inj heq
    exact hf n (mod_of_readHours hread)
  unfold readOffset at h
  split at h
  · split at h
    · obtain ⟨rfl, -⟩ := Prod.mk.inj (Option.some.inj h)
      rfl
    · split at h
      · obtain ⟨rfl, -⟩ := Prod.mk.inj (Option.some.inj h)
        rfl
      · split at h
        · exact hsigned (fun n hn => by omega) h
        · split at h
          · exact hsigned (f := fun n => -(n : Int)) (fun n hn => by omega) h
          · cases h
  · cases h

/-- The time of day of a moment is shifted by whole minutes, and a leap second stays at the end of
its minute. -/
theorem isMoment_of_ofParts {date : Date} {hour minute second nano : Nat} {offset : Int}
    (hnano : nano < 10 ^ 9) (hoffset : offset % 60 = 0)
    (h : ofParts date hour minute second nano offset = some t) : t.IsMoment := by
  obtain ⟨leap, hleap, hsixtieth⟩ : ∃ leap, (if second = 60 then 1 else 0) = leap ∧
      (leap = 0 ∨ leap = 1 ∧ second = 60) := ⟨_, rfl, by split <;> simp [*]⟩
  simp only [ofParts, hleap] at h
  split at h
  · split at h
    · rename_i hday
      obtain rfl := Option.some.inj h
      refine ⟨hday, by simp only; omega, ?_⟩
      simp only
      omega
    · cases h
  · cases h

theorem isMoment_of_ofText? {s : String} (h : ofText? s = some t) : t.IsMoment := by
  obtain ⟨⟨year, cs⟩, -, h⟩ := Option.bind_eq_some_iff.mp h
  obtain ⟨cs, -, h⟩ := Option.bind_eq_some_iff.mp h
  obtain ⟨⟨month, cs⟩, -, h⟩ := Option.bind_eq_some_iff.mp h
  obtain ⟨cs, -, h⟩ := Option.bind_eq_some_iff.mp h
  obtain ⟨⟨day, cs⟩, -, h⟩ := Option.bind_eq_some_iff.mp h
  simp only at h
  split at h
  · cases h
  · split at h
    · obtain ⟨⟨hour, cs⟩, -, h⟩ := Option.bind_eq_some_iff.mp h
      obtain ⟨cs, -, h⟩ := Option.bind_eq_some_iff.mp h
      obtain ⟨⟨minute, cs⟩, -, h⟩ := Option.bind_eq_some_iff.mp h
      obtain ⟨cs, -, h⟩ := Option.bind_eq_some_iff.mp h
      obtain ⟨⟨second, cs⟩, -, h⟩ := Option.bind_eq_some_iff.mp h
      obtain ⟨⟨nano, cs⟩, hnano, h⟩ := Option.bind_eq_some_iff.mp h
      obtain ⟨⟨offset, cs⟩, hoffset, h⟩ := Option.bind_eq_some_iff.mp h
      simp only at h
      split at h
      · exact isMoment_of_ofParts (lt_of_readFraction hnano) (mod_of_readOffset hoffset) h
      · cases h
    · cases h

end TokenLaunch.Instant
