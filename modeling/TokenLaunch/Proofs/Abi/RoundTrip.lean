import Mathlib.Data.List.Forall2
import TokenLaunch.Proofs.Abi.Decoding
import TokenLaunch.Proofs.Abi.Spelling

/-!
# Call data read back

What is written for values of given types is read back by these types, whatever stands behind it.
The induction is on the types; one lemma on components carries it, in which the parts before those
that are still to be read are at liberty.
-/

namespace TokenLaunch.Abi

/-- A value has a type: the kinds, the sizes, the fixed lengths and the numbers of items agree at
every level.  A number fits a word, whatever the size of its type, and so does the number of items
of an array: empty tuples take up no room, so that no other bound would follow from the room that
the items take up. -/
inductive Ty.Holds : Ty → Value → Prop
  | bool (b : Bool) : Holds .bool (.bool b)
  | int {n : Int} (bits : Nat) (hlow : -2 ^ 255 ≤ n) (hhigh : n < 2 ^ 255) :
    Holds (.int bits) (.int n bits)
  | uint {n : Nat} (bits : Nat) (h : n < 2 ^ 256) : Holds (.uint bits) (.uint n bits)
  | fixedBytes (bytes : List UInt8) : Holds (.fixedBytes bytes.length) (.fixedBytes bytes)
  | address (a : Address) : Holds .address (.address a)
  | bytes (bytes : List UInt8) : Holds .bytes (.bytes bytes)
  | string (s : String) : Holds .string (.string s)
  | array {item : Ty} {vs : List Value} (hcount : vs.length < 2 ^ 256)
      (h : ∀ v ∈ vs, Holds item v) : Holds (.array item) (.array vs)
  | fixedArray {item : Ty} {vs : List Value} (h : ∀ v ∈ vs, Holds item v) :
    Holds (.fixedArray item vs.length) (.fixedArray vs)
  | tuple {items : List Ty} {vs : List Value} (h : List.Forall₂ Holds items vs) :
    Holds (.tuple items) (.tuple vs)

mutual
/-- A type accepts the values that have it. -/
theorem Ty.accepts_of_holds (t : Ty) {v : Value} (h : t.Holds v) : t.accepts v = true := by
  cases h with
  | bool | address | bytes | string => rfl
  | int | uint | fixedBytes => exact beq_self_eq_true _
  | @array item vs hcount h =>
    rw [Ty.accepts, List.all_eq_true]
    exact fun v hv => item.accepts_of_holds (h v hv)
  | @fixedArray item vs h =>
    rw [Ty.accepts, beq_self_eq_true, Bool.true_and, List.all_eq_true]
    exact fun v hv => item.accepts_of_holds (h v hv)
  | @tuple items vs h => exact Ty.acceptsAll_of_forall₂ items h

theorem Ty.acceptsAll_of_forall₂ (ts : List Ty) {vs : List Value}
    (h : List.Forall₂ Ty.Holds ts vs) : Ty.acceptsAll ts vs = true := by
  cases h with
  | nil => rfl
  | @cons t v ts vs hv hvs =>
    rw [Ty.acceptsAll, t.accepts_of_holds hv, Ty.acceptsAll_of_forall₂ ts hvs, Bool.and_self]
end

/-! ## Components -/

/-- The part that a value is in call data. -/
def Value.part (v : Value) : Part := ⟨v.encode, v.isDynamic⟩

namespace Value

variable {v : Value}

theorem head_part_of_static (h : v.isDynamic = false) (offset : Nat) :
    v.part.head offset = v.encode := by
  simp [Part.head, part, h]

theorem head_part_of_dynamic (h : v.isDynamic = true) (offset : Nat) :
    v.part.head offset = word offset := by
  simp [Part.head, part, h]

theorem tail_part_of_static (h : v.isDynamic = false) : v.part.tail = [] := by
  simp [Part.tail, part, h]

theorem tail_part_of_dynamic (h : v.isDynamic = true) : v.part.tail = v.encode := by
  simp [Part.tail, part, h]

theorem headSize_part_of_static (h : v.isDynamic = false) :
    v.part.headSize = v.encode.length := by
  simp [Part.headSize, part, h]

theorem headSize_part_of_dynamic (h : v.isDynamic = true) : v.part.headSize = 32 := by
  simp [Part.headSize, part, h]

theorem parts_cons (v : Value) (vs : List Value) : parts (v :: vs) = v.part :: parts vs := rfl

end Value

/-- A slot reads a value from whatever begins with its encoding, and has the same place for it. -/
structure Slot.Reads (s : Slot) (v : Value) : Prop where
  isDynamic : v.isDynamic = s.isDynamic
  headSize : v.part.headSize = s.headSize
  decode : v.encode.length < 2 ^ 256 → ∀ rest, s.decode (v.encode ++ rest) = some v

/-- A component is read at the place of its head. -/
theorem Slot.Reads.read_assemble {s : Slot} {v : Value} (h : s.Reads v) {before after : List Part}
    (hlength : (assemble (before ++ v.part :: after)).length < 2 ^ 256) (rest : List UInt8) :
    s.read (assemble (before ++ v.part :: after) ++ rest) (Abi.headSize before) = some v := by
  have hpart : v.encode.length < 2 ^ 256 :=
    Nat.lt_of_le_of_lt (length_bytes_le_length before v.part after) hlength
  obtain ⟨more, hhead⟩ := exists_drop_headSize before v.part after rest
  rw [Slot.read, hhead, ← h.isDynamic]
  cases hdynamic : v.isDynamic with
  | false =>
    simp only [Value.head_part_of_static hdynamic, Bool.false_eq_true, if_false]
    exact h.decode hpart more
  | true =>
    have hplace : tailPlace before v.part after < 2 ^ 256 :=
      Nat.lt_of_le_of_lt (tailPlace_le_length before v.part after) hlength
    obtain ⟨more', hdrop⟩ := exists_drop_tailPlace before v.part after rest
    simp only [Value.head_part_of_dynamic hdynamic, if_true, readWord_append,
      Nat.mod_eq_of_lt hplace, Option.bind_eq_bind, Option.bind_some, hdrop,
      Value.tail_part_of_dynamic hdynamic]
    exact h.decode hpart more'

/-- Components are read one after the other, behind those that are read already. -/
theorem readSlots_assemble {ss : List Slot} {vs : List Value}
    (h : List.Forall₂ Slot.Reads ss vs) (before : List Part)
    (hlength : (assemble (before ++ Value.parts vs)).length < 2 ^ 256) (rest : List UInt8) :
    readSlots (assemble (before ++ Value.parts vs) ++ rest) (headSize before) ss = some vs := by
  induction h generalizing before with
  | nil => rfl
  | @cons s v ss vs hv _ ih =>
    have hread : s.read (assemble (before ++ Value.parts (v :: vs)) ++ rest) (headSize before) =
        some v := hv.read_assemble hlength rest
    have hnext : headSize before + s.headSize = headSize (before ++ [v.part]) := by
      rw [headSize_append, headSize, headSize, Nat.add_zero, hv.headSize]
    rw [readSlots, hread, hnext]
    rw [Value.parts_cons, List.append_cons] at hlength ⊢
    rw [ih _ hlength]
    rfl

/-- All components are read from the beginning. -/
theorem readSlots_zero {ss : List Slot} {vs : List Value} (h : List.Forall₂ Slot.Reads ss vs)
    (hlength : (assemble (Value.parts vs)).length < 2 ^ 256) (rest : List UInt8) :
    readSlots (assemble (Value.parts vs) ++ rest) 0 ss = some vs :=
  readSlots_assemble h [] hlength rest

theorem forall₂_replicate {s : Slot} {vs : List Value} (h : ∀ v ∈ vs, s.Reads v) :
    List.Forall₂ Slot.Reads (List.replicate vs.length s) vs := by
  induction vs with
  | nil => exact .nil
  | cons v vs ih =>
    rw [List.forall_mem_cons] at h
    exact .cons h.1 (ih h.2)

/-! ## Sizes of what components make up -/

theorem anyDynamic_of_reads {ss : List Slot} {vs : List Value}
    (h : List.Forall₂ Slot.Reads ss vs) : Value.anyDynamic vs = ss.any Slot.isDynamic := by
  induction h with
  | nil => rfl
  | cons hv _ ih => rw [Value.anyDynamic, List.any_cons, hv.isDynamic, ih]

theorem headSize_of_reads {ss : List Slot} {vs : List Value}
    (h : List.Forall₂ Slot.Reads ss vs) :
    headSize (Value.parts vs) = (ss.map Slot.headSize).sum := by
  induction h with
  | nil => rfl
  | cons hv _ ih => rw [Value.parts_cons, headSize, List.map_cons, List.sum_cons, hv.headSize, ih]

/-- Without dynamic components there are no tails. -/
theorem tails_eq_nil {vs : List Value} (h : Value.anyDynamic vs = false) :
    tails (Value.parts vs) = [] := by
  induction vs with
  | nil => rfl
  | cons v vs ih =>
    rw [Value.anyDynamic, Bool.or_eq_false_iff] at h
    rw [Value.parts_cons, tails_cons, Value.tail_part_of_static h.1, ih h.2, List.append_nil]

/-- What components take up of a head in which they stand as one. -/
theorem headSize_assembled {ss : List Slot} {vs : List Value}
    (h : List.Forall₂ Slot.Reads ss vs) :
    (Part.mk (assemble (Value.parts vs)) (Value.anyDynamic vs)).headSize =
      if ss.any Slot.isDynamic then 32 else (ss.map Slot.headSize).sum := by
  rw [← anyDynamic_of_reads h, Part.headSize]
  cases hdynamic : Value.anyDynamic vs with
  | true => rfl
  | false =>
    simp only [Bool.false_eq_true, if_false, length_assemble, tails_eq_nil hdynamic,
      List.length_nil, Nat.add_zero, headSize_of_reads h]

theorem any_slots (ts : List Ty) : (Ty.slots ts).any Slot.isDynamic = Ty.anyDynamic ts := by
  induction ts with
  | nil => rfl
  | cons t ts ih => rw [Ty.slots, List.any_cons, ih, Ty.anyDynamic]

theorem sum_slots (ts : List Ty) : ((Ty.slots ts).map Slot.headSize).sum = Ty.headSizes ts := by
  induction ts with
  | nil => rfl
  | cons t ts ih => rw [Ty.slots, List.map_cons, List.sum_cons, ih, Ty.headSizes]

/-! ## Values -/

section Kinds

attribute [local simp] Ty.decode Value.encode

theorem length_padRight_of_le {bytes : List UInt8} (hpos : 0 < bytes.length)
    (hle : bytes.length ≤ 32) : (padRight bytes).length = 32 := by
  rw [length_padRight, wordsFor]
  omega

/-- A number in a word of its own. -/
theorem reads_word {t : Ty} {v : Value} {n : Nat} (hdynamic : v.isDynamic = t.isDynamic)
    (hencode : v.encode = word n) (hstatic : t.isDynamic = false) (hsize : t.headSize = 32)
    (hdecode : ∀ rest, t.decode (word n ++ rest) = some v) : t.slot.Reads v where
  isDynamic := hdynamic
  headSize := by
    rw [Value.headSize_part_of_static (hdynamic.trans hstatic), hencode, length_word]
    exact hsize.symm
  decode := by
    intro _ rest
    rw [hencode]
    exact hdecode rest

/-- Bytes of a fixed number, which fill a word. -/
theorem reads_fixedBytes {bytes : List UInt8} (hpos : 0 < bytes.length) (hle : bytes.length ≤ 32) :
    (Ty.fixedBytes bytes.length).slot.Reads (.fixedBytes bytes) where
  isDynamic := rfl
  headSize := length_padRight_of_le hpos hle
  decode := by
    intro _ rest
    have hword : 32 ≤ (padRight bytes ++ rest).length := by
      rw [List.length_append, length_padRight_of_le hpos hle]
      exact Nat.le_add_right _ _
    have hbytes : readBytes bytes.length (padRight bytes ++ rest) = some bytes := by
      rw [padRight, List.append_assoc, readBytes_append]
    simp only [Ty.slot, Ty.decode, Value.encode, readWord, if_pos hword, Option.bind_eq_bind,
      Option.bind_some, hbytes]

/-- Counted bytes, which stand in the tail. -/
theorem reads_counted {t : Ty} {v : Value} {bytes : List UInt8} (hv : v.isDynamic = true)
    (ht : t.isDynamic = true) (hsize : t.headSize = 32) (hencode : v.encode = counted bytes)
    (hdecode : bytes.length < 2 ^ 256 → ∀ rest, t.decode (counted bytes ++ rest) = some v) :
    t.slot.Reads v where
  isDynamic := hv.trans ht.symm
  headSize := (Value.headSize_part_of_dynamic hv).trans hsize.symm
  decode := by
    intro hlength rest
    have hbytes : bytes.length ≤ (counted bytes).length := by
      rw [length_counted, wordsFor]
      omega
    rw [hencode] at hlength ⊢
    exact hdecode (Nat.lt_of_le_of_lt hbytes hlength) rest

theorem reads_bool (b : Bool) : Ty.bool.slot.Reads (.bool b) := by
  refine reads_word (n := if b then 1 else 0) rfl rfl rfl rfl ?_
  intro rest
  cases b <;> simp [readWord_append]

theorem reads_int {n : Int} (bits : Nat) (hlow : -2 ^ 255 ≤ n) (hhigh : n < 2 ^ 255) :
    (Ty.int bits).slot.Reads (.int n bits) := by
  refine reads_word rfl rfl rfl rfl ?_
  intro rest
  have htwo : ((twoTo 256 : Nat) : Int) = 2 ^ 256 := rfl
  have hfits : (n % (twoTo 256 : Nat)).toNat < 2 ^ 256 := by
    rw [htwo]
    omega
  rw [Ty.decode, readWord_append, Nat.mod_eq_of_lt hfits, Option.map_some,
    signed_emod hlow hhigh]

theorem reads_uint {n : Nat} (bits : Nat) (h : n < 2 ^ 256) :
    (Ty.uint bits).slot.Reads (.uint n bits) := by
  refine reads_word rfl rfl rfl rfl ?_
  intro rest
  rw [Ty.decode, readWord_append, Nat.mod_eq_of_lt h]
  rfl

theorem reads_address (a : Address) : Ty.address.slot.Reads (.address a) := by
  refine reads_word rfl rfl rfl rfl ?_
  intro rest
  have hfits : a.toNat % 2 ^ 256 = a.toNat :=
    Nat.mod_eq_of_lt (Nat.lt_trans a.isLt (Nat.pow_lt_pow_right (by decide) (by decide)))
  simp only [Ty.decode, readWord_append, hfits, Option.bind_eq_bind, Option.bind_some, a.isLt,
    if_true, BitVec.ofNat_toNat, BitVec.setWidth_eq]

theorem reads_bytes (bytes : List UInt8) : Ty.bytes.slot.Reads (.bytes bytes) := by
  refine reads_counted rfl rfl rfl rfl ?_
  intro hlength rest
  simp [readCounted_append hlength]

theorem reads_string (s : String) : Ty.string.slot.Reads (.string s) := by
  refine reads_counted rfl rfl rfl rfl ?_
  intro hlength rest
  simp [readCounted_append hlength, readText_utf8]

/-- The number of items stands before them, and places count from the first item. -/
theorem reads_array {item : Ty} {vs : List Value} (hcount : vs.length < 2 ^ 256)
    (h : ∀ v ∈ vs, item.slot.Reads v) : (Ty.array item).slot.Reads (.array vs) := by
  refine ⟨rfl, rfl, ?_⟩
  intro hlength rest
  have hitems : (assemble (Value.parts vs)).length < 2 ^ 256 := by
    rw [Value.encode, List.length_append] at hlength
    omega
  simp only [Ty.slot, Ty.decode, Value.encode, List.append_assoc, readWord_append,
    Nat.mod_eq_of_lt hcount, Option.bind_eq_bind, Option.bind_some,
    List.drop_left' (length_word _)]
  exact congrArg (Option.map Value.array) (readSlots_zero (forall₂_replicate h) hitems rest)

/-- Only with an item in it is an array of dynamic items dynamic. -/
theorem reads_fixedArray {item : Ty} {vs : List Value} (hpos : 0 < vs.length)
    (h : ∀ v ∈ vs, item.slot.Reads v) :
    (Ty.fixedArray item vs.length).slot.Reads (.fixedArray vs) := by
  have hreads : List.Forall₂ Slot.Reads (List.replicate vs.length item.slot) vs :=
    forall₂_replicate h
  have hany : (List.replicate vs.length item.slot).any Slot.isDynamic = item.isDynamic := by
    rw [List.any_replicate, if_neg (Nat.ne_of_gt hpos)]
    rfl
  refine ⟨(anyDynamic_of_reads hreads).trans hany, ?_, ?_⟩
  · refine (headSize_assembled hreads).trans ?_
    rw [hany, List.map_replicate, List.sum_replicate_nat]
    rfl
  · intro hlength rest
    exact congrArg (Option.map Value.fixedArray) (readSlots_zero hreads hlength rest)

theorem reads_tuple {items : List Ty} {vs : List Value}
    (h : List.Forall₂ Slot.Reads (Ty.slots items) vs) :
    (Ty.tuple items).slot.Reads (.tuple vs) := by
  refine ⟨(anyDynamic_of_reads h).trans (any_slots items), ?_, ?_⟩
  · refine (headSize_assembled h).trans ?_
    rw [any_slots, sum_slots]
    rfl
  · intro hlength rest
    exact congrArg (Option.map Value.tuple) (readSlots_zero h hlength rest)

end Kinds

mutual
/-- Values are read back by their types. -/
theorem Ty.reads (t : Ty) (ht : t.WellFormed) {v : Value} (h : t.Holds v) : t.slot.Reads v := by
  cases h with
  | bool b => exact reads_bool b
  | int bits hlow hhigh => exact reads_int bits hlow hhigh
  | uint bits h => exact reads_uint bits h
  | fixedBytes bytes => exact reads_fixedBytes ht.1 ht.2
  | address a => exact reads_address a
  | bytes bytes => exact reads_bytes bytes
  | string s => exact reads_string s
  | @array item vs hcount h => exact reads_array hcount fun v hv => item.reads ht (h v hv)
  | @fixedArray item vs h => exact reads_fixedArray ht.2.1 fun v hv => item.reads ht.1 (h v hv)
  | @tuple items vs h => exact reads_tuple (Ty.reads_slots items ht h)

theorem Ty.reads_slots (ts : List Ty) (hts : Ty.AllWellFormed ts) {vs : List Value}
    (h : List.Forall₂ Ty.Holds ts vs) : List.Forall₂ Slot.Reads (Ty.slots ts) vs := by
  cases h with
  | nil => exact .nil
  | @cons t v ts vs hv hvs => exact .cons (t.reads hts.1 hv) (Ty.reads_slots ts hts.2 hvs)
end

end TokenLaunch.Abi
