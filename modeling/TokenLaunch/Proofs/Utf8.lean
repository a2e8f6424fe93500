import Mathlib.Tactic.Common
import TokenLaunch.Utf8

/-!
# Bytes of texts

The bytes of a text in UTF-8, read as characters of their own.  A text is read so as itself where all
its characters are in ASCII, and nowhere else: any other character leaves a byte that is not.
-/

namespace TokenLaunch.Text

/-- In ASCII. -/
def IsAscii (c : Char) : Prop := c.toNat < 128

instance (c : Char) : Decidable (IsAscii c) := inferInstanceAs (Decidable (c.toNat < 128))

theorem utf8Size_eq_one_iff {c : Char} : c.utf8Size = 1 ↔ IsAscii c := by
  have hval : c.val.toNat = c.toNat := rfl
  rw [Char.utf8Size_eq_one_iff, UInt32.le_iff_toNat_le, hval]
  exact Nat.lt_succ_iff.symm

/-- A byte as a character. -/
def ofByte (b : UInt8) : Char := Char.ofNat b.toNat

/-- The bytes of a text. -/
def byteTexts (s : String) : List Char := s.toUTF8.toList.map ofByte

theorem toNat_ofByte (b : UInt8) : (ofByte b).toNat = b.toNat := by
  have hb := b.toNat_lt
  have hvalid : b.toNat.isValidChar := .inl (by omega)
  rw [ofByte, Char.ofNat, dif_pos hvalid]
  rfl

theorem toList_loop (bytes : ByteArray) (i : Nat) (before : List UInt8) :
    ByteArray.toList.loop bytes i before = before.reverse ++ bytes.data.toList.drop i := by
  fun_induction ByteArray.toList.loop bytes i before with
  | case1 i before h ih =>
    have hlen : i < bytes.data.toList.length := h
    have hget : bytes.get! i = bytes.data.toList[i] := getElem!_pos bytes.data i h
    rw [ih, List.reverse_cons, List.append_assoc, List.singleton_append, hget,
      List.drop_eq_getElem_cons hlen]
  | case2 i before h =>
    have hlen : bytes.data.toList.length ≤ i := Nat.not_lt.mp h
    rw [List.drop_eq_nil_of_le hlen, List.append_nil]

/-- The bytes of a text are those of its characters. -/
theorem byteTexts_eq_flatMap (s : String) :
    byteTexts s = s.toList.flatMap fun c => (String.utf8EncodeChar c).map ofByte := by
  have hbytes : s.toUTF8.toList = s.toList.flatMap String.utf8EncodeChar := by
    rw [ByteArray.toList, toList_loop, List.drop_zero, List.reverse_nil, List.nil_append]
    conv_lhs => rw [← String.ofList_toList (s := s)]
    exact List.toList_data_toByteArray
  rw [byteTexts, hbytes, List.map_flatMap]

theorem map_ofByte_of_isAscii {c : Char} (h : IsAscii c) :
    (String.utf8EncodeChar c).map ofByte = [c] := by
  have hval : c.val.toNat = c.toNat := rfl
  have hascii : c.toNat < 128 := h
  have hbyte : c.val.toUInt8.toNat = c.toNat := by
    rw [UInt32.toNat_toUInt8]
    omega
  rw [String.utf8EncodeChar_eq_singleton (utf8Size_eq_one_iff.mpr h), List.map_singleton, ofByte,
    hbyte, Char.ofNat_toNat]

/-- Beyond ASCII the first byte is not in ASCII either. -/
theorem exists_not_isAscii {c : Char} (h : ¬ IsAscii c) :
    ∃ x ∈ (String.utf8EncodeChar c).map ofByte, ¬ IsAscii x := by
  have hval : c.val.toNat = c.toNat := rfl
  have hlarge : 128 ≤ c.toNat := Nat.not_lt.mp h
  have hbyte {n : Nat} (hlow : 128 ≤ n) (hhigh : n < 256) : ¬ IsAscii (ofByte (UInt8.ofNat n)) := by
    rw [IsAscii, toNat_ofByte, UInt8.toNat_ofNat_of_lt' hhigh]
    exact Nat.not_lt.mpr hlow
  simp only [String.utf8EncodeChar, hval]
  split
  · omega
  · split
    · exact ⟨_, List.mem_cons_self, hbyte (by omega) (by omega)⟩
    · split
      · exact ⟨_, List.mem_cons_self, hbyte (by omega) (by omega)⟩
      · exact ⟨_, List.mem_cons_self, hbyte (by omega) (by omega)⟩

/-- Characters of ASCII are read from their bytes. -/
theorem decodeFrom_map {cs : List Char} (h : ∀ c ∈ cs, IsAscii c) :
    Utf8.decodeFrom none (cs.map fun c => UInt8.ofNat c.toNat) = cs := by
  induction cs with
  | nil => simp [Utf8.decodeFrom]
  | cons c cs ih =>
    obtain ⟨hc, hcs⟩ := List.forall_mem_cons.mp h
    have hascii : c.toNat < 128 := hc
    have hbyte : (UInt8.ofNat c.toNat).toNat = c.toNat :=
      UInt8.toNat_ofNat_of_lt' (Nat.lt_trans hascii (by decide))
    rw [List.map_cons, Utf8.decodeFrom, hbyte, Utf8.decodeFrom.start, if_pos hascii, ih hcs,
      Char.ofNat_toNat]

/-- The bytes of a text are some characters of ASCII where its own characters are. -/
theorem byteTexts_eq_iff {s : String} {cs : List Char} (hcs : ∀ c ∈ cs, IsAscii c) :
    byteTexts s = cs ↔ s.toList = cs := by
  have hself {ds : List Char} (hds : ∀ c ∈ ds, IsAscii c) :
      (ds.flatMap fun c => (String.utf8EncodeChar c).map ofByte) = ds := by
    induction ds with
    | nil => rfl
    | cons d ds ih =>
      rw [List.forall_mem_cons] at hds
      rw [List.flatMap_cons, map_ofByte_of_isAscii hds.1, ih hds.2, List.singleton_append]
  rw [byteTexts_eq_flatMap]
  constructor
  · intro heq
    have hascii : ∀ c ∈ s.toList, IsAscii c := by
      intro c hc
      by_contra hno
      obtain ⟨x, hx, hxno⟩ := exists_not_isAscii hno
      refine hxno (hcs x ?_)
      rw [← heq]
      exact List.mem_flatMap.mpr ⟨c, hc, hx⟩
    rwa [hself hascii] at heq
  · rintro rfl
    exact hself hcs

end TokenLaunch.Text
