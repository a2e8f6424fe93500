import TokenLaunch.Proofs.Hex
import TokenLaunch.RecordId

/-!
# Record identifiers and their texts

An identifier is written in five groups of lower-case digits, and is read back from there.
-/

namespace TokenLaunch.RecordId

variable {count n : Nat}

/-! ## Digits -/

theorem length_digits (count n : Nat) : (digits count n).length = count := by
  induction count generalizing n with
  | zero => rfl
  | succ count ih => rw [digits, List.length_append, ih, List.length_singleton]

theorem isDigit_of_mem_digits {c : Char} (h : c ∈ digits count n) : Hex.IsDigit c := by
  induction count generalizing n with
  | zero => cases h
  | succ count ih =>
    rcases List.mem_append.mp h with hhigh | hlast
    · exact ih hhigh
    · rw [List.mem_singleton.mp hlast]
      exact Hex.isDigit_digit n

/-- Digits stand for what they are the last digits of. -/
theorem mapM_value?_digits (count n : Nat) : ∃ ds, (digits count n).mapM Hex.value? = some ds ∧
    ds.foldl (fun n d => 16 * n + d) 0 = n % 16 ^ count := by
  induction count generalizing n with
  | zero => exact ⟨[], rfl, (Nat.mod_one n).symm⟩
  | succ count ih =>
    obtain ⟨ds, hread, hvalue⟩ := ih (n / 16)
    refine ⟨ds ++ [n % 16], ?_, ?_⟩
    · simp [digits, List.mapM_append, hread, Hex.value?_digit]
    · rw [List.foldl_append, hvalue, Nat.pow_succ', Nat.mod_mul, Nat.add_comm]
      rfl

theorem ofDigits?_digits (id : RecordId) : ofDigits? (digits 32 id.toNat) = some id := by
  obtain ⟨ds, hread, hvalue⟩ := mapM_value?_digits 32 id.toNat
  have hlt : id.toNat < 16 ^ 32 := id.isLt
  rw [ofDigits?, if_pos (length_digits _ _), hread, Option.bind_eq_bind, Option.bind_some, hvalue,
    Nat.mod_eq_of_lt hlt, BitVec.ofNat_toNat, BitVec.setWidth_eq]

/-! ## Groups -/

/-- Five groups of digits with hyphens between them. -/
inductive IsHyphenated : List Char → Prop
  | mk {a b c d e : List Char} (ha : a.length = 8) (hb : b.length = 4) (hc : c.length = 4)
      (hd : d.length = 4) (he : e.length = 12)
      (hdigits : ∀ x ∈ a ++ b ++ c ++ d ++ e, Hex.IsDigit x) :
      IsHyphenated (a ++ '-' :: b ++ '-' :: c ++ '-' :: d ++ '-' :: e)

theorem ofGroups?_groups {a b c d e : List Char} (ha : a.length = 8) (hb : b.length = 4)
    (hc : c.length = 4) (hd : d.length = 4) (he : e.length = 12) :
    ofGroups? (a ++ '-' :: b ++ '-' :: c ++ '-' :: d ++ '-' :: e) =
      ofDigits? (a ++ b ++ c ++ d ++ e) := by
  have hnil {l : List Char} {k : Nat} (h : l.length ≤ k) : l.drop k = [] :=
    List.drop_eq_nil_of_le h
  simp [ofGroups?, List.drop_append, hnil, ha, hb, hc, hd, he]

/-- The five parts of the digits. -/
theorem exists_groups (id : RecordId) : ∃ a b c d e : List Char, a.length = 8 ∧ b.length = 4 ∧
    c.length = 4 ∧ d.length = 4 ∧ e.length = 12 ∧ a ++ b ++ c ++ d ++ e = digits 32 id.toNat ∧
      id.chars = a ++ '-' :: b ++ '-' :: c ++ '-' :: d ++ '-' :: e := by
  have hlength := length_digits 32 id.toNat
  refine ⟨_, _, _, _, _, by simp [hlength], by simp [hlength], by simp [hlength],
    by simp [hlength], by simp [hlength], ?_, rfl⟩
  have hsplit (k m : Nat) : ((digits 32 id.toNat).drop k).take m ++
      (digits 32 id.toNat).drop (k + m) = (digits 32 id.toNat).drop k := by
    rw [← List.drop_drop, List.take_append_drop]
  simp only [List.append_assoc, hsplit 16 4, hsplit 12 4, hsplit 8 4, List.take_append_drop]

theorem isHyphenated_text (id : RecordId) : IsHyphenated id.text.toList := by
  obtain ⟨a, b, c, d, e, ha, hb, hc, hd, he, hdigits, hchars⟩ := exists_groups id
  rw [text, String.toList_ofList, hchars]
  exact .mk ha hb hc hd he (hdigits ▸ fun x => isDigit_of_mem_digits)

theorem ofGroups?_chars (id : RecordId) : ofGroups? id.chars = some id := by
  obtain ⟨a, b, c, d, e, ha, hb, hc, hd, he, hdigits, hchars⟩ := exists_groups id
  rw [hchars, ofGroups?_groups ha hb hc hd he, hdigits, ofDigits?_digits]

/-- A digit is neither a brace nor the first letter of the name of the kind. -/
theorem ne_of_isDigit {c : Char} (h : Hex.IsDigit c) : c ≠ '\x7b' ∧ c.toLower ≠ 'u' := by
  have hall : ("0123456789abcdef".toList.all fun c => c != '\x7b' && c.toLower != 'u') = true := by
    decide
  simpa using List.all_eq_true.mp hall c h

theorem sameWord_kind {c : Char} (h : c.toLower ≠ 'u') (cs : List Char) :
    Text.sameWord (String.ofList (c :: cs)) kind = false := by
  rw [Text.sameWord, beq_eq_false_iff_ne]
  intro heq
  have hkind : (Text.lower kind).toList = 'u' :: "rn:uuid:".toList := by decide +kernel
  have hletters := congrArg String.toList heq
  rw [hkind, Text.lower, String.toList_map, String.toList_ofList, List.map_cons] at hletters
  exact h (List.cons.inj hletters).1

/-- The text of an identifier is read as this identifier. -/
theorem ofText?_text (id : RecordId) : ofText? id.text = some id := by
  obtain ⟨a, b, c, d, e, ha, hb, hc, hd, he, hdigits, hchars⟩ := exists_groups id
  obtain ⟨x, a, rfl⟩ := List.exists_cons_of_length_pos (by omega : 0 < a.length)
  have hx : Hex.IsDigit x := isDigit_of_mem_digits (hdigits ▸ by simp : x ∈ digits 32 id.toNat)
  obtain ⟨hbrace, hletter⟩ := ne_of_isDigit hx
  have hlength : id.chars.length ≠ 32 := by
    rw [hchars]
    simp only [List.length_append, List.length_cons, ha, hb, hc, hd, he] at ha ⊢
    omega
  have hread := ofGroups?_chars id
  rw [hchars] at hlength hread
  simp only [List.cons_append] at hlength hread
  rw [ofText?, text, String.toList_ofList, hchars]
  simp only [List.cons_append]
  split
  · rename_i heq
    exact absurd (List.cons.inj heq).1 hbrace
  · have hkind : kind.length = 8 + 1 := by decide +kernel
    rw [hkind, List.take_succ_cons, sameWord_kind hletter, if_neg Bool.false_ne_true,
      if_neg hlength, hread]

end TokenLaunch.RecordId
