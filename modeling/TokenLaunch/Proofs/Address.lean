import Mathlib.Data.Nat.Digits.Lemmas
import Mathlib.Tactic.Ring
import TokenLaunch.Address
import TokenLaunch.Proofs.Utf8

/-!
# Texts of addresses

The texts that are read as addresses: forty hexadecimal digits of either case, with or without a mark
before them, and nothing else.
-/

namespace TokenLaunch

open Text

namespace Hex

/-- Hexadecimal digits and the number that they stand for. -/
def Denotes (cs : List Char) (n : Nat) : Prop :=
  ∃ ds : List Nat, cs.map value? = ds.map some ∧ n = Nat.ofDigits 16 ds.reverse

theorem isAscii_of_value? {c : Char} {d : Nat} (h : value? c = some d) : IsAscii c := by
  have hnine : '9'.toNat = 57 := rfl
  have hf : 'f'.toNat = 102 := rfl
  have hF : 'F'.toNat = 70 := rfl
  unfold value? at h
  unfold IsAscii
  by_contra hlarge
  rw [if_neg (by omega), if_neg (by omega), if_neg (by omega)] at h
  cases h

theorem value?_lt {c : Char} {d : Nat} (h : value? c = some d) : d < 16 := by
  have hzero : '0'.toNat = 48 := rfl
  have hnine : '9'.toNat = 57 := rfl
  have ha : 'a'.toNat = 97 := rfl
  have hf : 'f'.toNat = 102 := rfl
  have hA : 'A'.toNat = 65 := rfl
  have hF : 'F'.toNat = 70 := rfl
  unfold value? at h
  extract_lets n at h
  split at h
  · cases h
    omega
  · split at h
    · cases h
      omega
    · split at h
      · cases h
        omega
      · cases h

theorem Denotes.isAscii {cs : List Char} {n : Nat} (h : Denotes cs n) : ∀ c ∈ cs, IsAscii c := by
  obtain ⟨ds, hds, -⟩ := h
  intro c hc
  have hmem : value? c ∈ cs.map value? := List.mem_map_of_mem hc
  rw [hds] at hmem
  obtain ⟨d, -, hd⟩ := List.mem_map.mp hmem
  exact isAscii_of_value? hd.symm

theorem Denotes.lt {cs : List Char} {n : Nat} (h : Denotes cs n) : n < 16 ^ cs.length := by
  obtain ⟨ds, hds, rfl⟩ := h
  have hlen : cs.length = ds.reverse.length := by
    rw [List.length_reverse, ← List.length_map (f := value?), hds, List.length_map]
  rw [hlen]
  refine Nat.ofDigits_lt_base_pow_length (by decide) ?_
  intro d hd
  have hmem : some d ∈ ds.map some := List.mem_map_of_mem (List.mem_reverse.mp hd)
  rw [← hds] at hmem
  obtain ⟨c, -, hc⟩ := List.mem_map.mp hmem
  exact value?_lt hc

/-- A mark before the digits is left out, and nothing else. -/
theorem eq_of_dropMark (cs : List Char) :
    cs = dropMark cs ∨ cs = '0' :: 'x' :: dropMark cs ∨ cs = '0' :: 'X' :: dropMark cs := by
  unfold dropMark
  split
  · exact .inr (.inl rfl)
  · exact .inr (.inr rfl)
  · exact .inl rfl

/-- Digits are not taken for a mark. -/
theorem Denotes.dropMark_eq {cs : List Char} {n : Nat} (h : Denotes cs n) : dropMark cs = cs := by
  obtain ⟨ds, hds, -⟩ := h
  have hvalue {c : Char} (hc : c ∈ cs) : value? c ≠ none := by
    intro hnone
    have hmem : value? c ∈ cs.map value? := List.mem_map_of_mem hc
    rw [hnone, hds] at hmem
    simp at hmem
  unfold dropMark
  split
  · exact absurd rfl (hvalue (c := 'x') (by simp))
  · exact absurd rfl (hvalue (c := 'X') (by simp))
  · rfl

end Hex

namespace Address

/-- Digits are read from left to right, behind a number that was read before. -/
theorem readHex_eq_ok_iff {position value n : Nat} {cs : List Char} :
    readHex position value cs = .ok n ↔
      ∃ ds : List Nat, cs.map Hex.value? = ds.map some ∧
        n = value * 16 ^ ds.length + Nat.ofDigits 16 ds.reverse := by
  induction cs generalizing position value with
  | nil =>
    simp only [readHex, Except.ok.injEq, List.map_nil]
    constructor
    · rintro rfl
      exact ⟨[], rfl, by simp⟩
    · rintro ⟨ds, hds, rfl⟩
      obtain rfl := List.map_eq_nil_iff.mp hds.symm
      simp
  | cons c cs ih =>
    rw [readHex, List.map_cons]
    cases hc : Hex.value? c with
    | none =>
      simp only [reduceCtorEq, false_iff]
      rintro ⟨ds, hds, -⟩
      cases ds <;> simp at hds
    | some d =>
      simp only [ih]
      constructor
      · rintro ⟨ds, hds, rfl⟩
        refine ⟨d :: ds, by rw [hds, List.map_cons], ?_⟩
        rw [List.reverse_cons, Nat.ofDigits_append, Nat.ofDigits_singleton, List.length_reverse,
          List.length_cons, pow_succ]
        ring
      · rintro ⟨ds, hds, rfl⟩
        cases ds with
        | nil => cases hds
        | cons e ds =>
          rw [List.map_cons, List.cons.injEq, Option.some.injEq] at hds
          obtain ⟨rfl, hds⟩ := hds
          refine ⟨ds, hds, ?_⟩
          rw [List.reverse_cons, Nat.ofDigits_append, Nat.ofDigits_singleton, List.length_reverse,
            List.length_cons, pow_succ]
          ring

/-- A text of an address: forty digits that stand for it, with or without a mark before them. -/
def Written (s : String) (a : Address) : Prop :=
  ∃ cs, cs.length = 40 ∧ Hex.Denotes cs a.toNat ∧
    (s.toList = cs ∨ s.toList = '0' :: 'x' :: cs ∨ s.toList = '0' :: 'X' :: cs)

theorem Written.ne_empty {s : String} {a : Address} (h : Written s a) : s ≠ "" := by
  rintro rfl
  obtain ⟨cs, hlen, -, htext | htext | htext⟩ := h
  · rw [← htext] at hlen
    cases hlen
  · cases htext
  · cases htext

theorem isAscii_mark : IsAscii '0' ∧ IsAscii 'x' ∧ IsAscii 'X' := by
  unfold IsAscii
  decide

theorem parse_eq (s : String) : parse s =
    if (Hex.dropMark (byteTexts s)).length % 2 = 1 then .error .oddLength
    else if (Hex.dropMark (byteTexts s)).length ≠ 40 then .error .wrongLength
    else (readHex 0 0 (Hex.dropMark (byteTexts s))).map (BitVec.ofNat 160) := rfl

/-- Hexadecimal digits are of ASCII, so that the bytes that were read are the text itself. -/
theorem written_of_parse {s : String} {a : Address} (h : parse s = .ok a) : Written s a := by
  obtain ⟨hzero, hx, hX⟩ := isAscii_mark
  rw [parse_eq] at h
  split at h
  · cases h
  split at h
  · cases h
  rename_i _ hlen
  rw [Ne, not_not] at hlen
  cases hread : readHex 0 0 (Hex.dropMark (byteTexts s)) with
  | error fault =>
    rw [hread] at h
    cases h
  | ok n =>
    rw [hread] at h
    obtain rfl := Except.ok.inj h
    obtain ⟨ds, hds, hn⟩ := readHex_eq_ok_iff.mp hread
    have hdenotes : Hex.Denotes (Hex.dropMark (byteTexts s)) n := ⟨ds, hds, by rw [hn]; simp⟩
    have hlt : n < 2 ^ 160 := by
      have hbound := hdenotes.lt
      rw [hlen] at hbound
      exact lt_of_lt_of_eq hbound (by norm_num)
    have hascii := hdenotes.isAscii
    refine ⟨Hex.dropMark (byteTexts s), hlen, ?_, ?_⟩
    · rwa [BitVec.toNat_ofNat, Nat.mod_eq_of_lt hlt]
    · rcases Hex.eq_of_dropMark (byteTexts s) with heq | heq | heq
      · exact .inl ((byteTexts_eq_iff hascii).mp heq)
      · refine .inr (.inl ((byteTexts_eq_iff ?_).mp heq))
        simpa only [List.forall_mem_cons] using ⟨hzero, hx, hascii⟩
      · refine .inr (.inr ((byteTexts_eq_iff ?_).mp heq))
        simpa only [List.forall_mem_cons] using ⟨hzero, hX, hascii⟩

theorem Written.parse {s : String} {a : Address} (h : Written s a) : Address.parse s = .ok a := by
  obtain ⟨hzero, hx, hX⟩ := isAscii_mark
  obtain ⟨cs, hlen, hdenotes, htext⟩ := h
  have hascii := hdenotes.isAscii
  have hdrop : Hex.dropMark (byteTexts s) = cs := by
    rcases htext with htext | htext | htext
    · rw [(byteTexts_eq_iff hascii).mpr htext, hdenotes.dropMark_eq]
    · have hmarked : ∀ c ∈ '0' :: 'x' :: cs, IsAscii c := by
        simpa only [List.forall_mem_cons] using ⟨hzero, hx, hascii⟩
      rw [(byteTexts_eq_iff hmarked).mpr htext]
      rfl
    · have hmarked : ∀ c ∈ '0' :: 'X' :: cs, IsAscii c := by
        simpa only [List.forall_mem_cons] using ⟨hzero, hX, hascii⟩
      rw [(byteTexts_eq_iff hmarked).mpr htext]
      rfl
  obtain ⟨ds, hds, hn⟩ := hdenotes
  have hread : readHex 0 0 cs = .ok a.toNat := readHex_eq_ok_iff.mpr ⟨ds, hds, by rw [hn]; simp⟩
  rw [parse_eq, hdrop, hlen, if_neg (by decide), if_neg (by decide), hread]
  simp [Except.map]

theorem parse_eq_ok_iff {s : String} {a : Address} : parse s = .ok a ↔ Written s a :=
  ⟨written_of_parse, Written.parse⟩

end Address

end TokenLaunch
