import Mathlib.Tactic.IntervalCases
import TokenLaunch.Proofs.Abi.Arguments
import TokenLaunch.Proofs.Validation

/-!
# Types that parameters spell

The types that lists of parameters stand for are those of call data: no spelling stands for a number
or for bytes of a size that there is not, nor for an array of no items, and every type of call data
has a spelling.
-/

namespace TokenLaunch.Abi

mutual
/-- The types of call data: the sizes that numbers and runs of bytes may have, and arrays of a fixed
length that is not zero. -/
def Ty.WellFormed : Ty → Prop
  | .int bits | .uint bits => 0 < bits ∧ bits ≤ 256 ∧ bits % 8 = 0
  | .fixedBytes size => 0 < size ∧ size ≤ 32
  | .array item => item.WellFormed
  | .fixedArray item size => item.WellFormed ∧ 0 < size ∧ size < 2 ^ 64
  | .tuple items => Ty.AllWellFormed items
  | _ => True

def Ty.AllWellFormed : List Ty → Prop
  | [] => True
  | t :: ts => t.WellFormed ∧ Ty.AllWellFormed ts
end

/-- The length in the brackets of an array: none, or one that a type may have. -/
def IsLength (size : Option Nat) : Prop := ∀ n ∈ size, 0 < n ∧ n < 2 ^ 64

theorem isLength_none : IsLength none := fun _ hn => nomatch hn

theorem isLength_some {n : Nat} (h : 0 < n ∧ n < 2 ^ 64) : IsLength (some n) := by
  rintro m ⟨⟩
  exact h

mutual
/-- Spellings whose brackets hold lengths. -/
def Spelling.Sized : Spelling → Prop
  | .root _ => True
  | .tuple items => Spelling.AllSized items
  | .array item size => item.Sized ∧ IsLength size

def Spelling.AllSized : List Spelling → Prop
  | [] => True
  | s :: ss => s.Sized ∧ Spelling.AllSized ss
end

/-! ## What is read is sized -/

theorem isLength_of_readSize {cs rest : List Char} {size : Option Nat}
    (h : readSize cs = .ok (size, rest)) : IsLength size := by
  have htwo : twoTo 64 = 2 ^ 64 := rfl
  simp only [readSize] at h
  split at h
  · cases h
    exact isLength_none
  · split at h
    · cases h
    · split at h
      · cases h
        exact isLength_some (by omega)
      · cases h

theorem sized_of_readSizes {fuel : Nat} {item s : Spelling} {isFirst : Bool} {cs rest : List Char}
    (hitem : item.Sized) (h : readSizes item isFirst fuel cs = .ok (s, rest)) : s.Sized := by
  induction fuel generalizing item isFirst cs with
  | zero =>
    cases h
    exact hitem
  | succ fuel ih =>
    unfold readSizes at h
    split at h
    · rename_i inner
      cases hsize : readSize inner with
      | error fault =>
        rw [hsize] at h
        cases isFirst with
        | true => cases h
        | false =>
          cases h
          exact hitem
      | ok read =>
        obtain ⟨size, behind⟩ := read
        rw [hsize] at h
        obtain ⟨behind', -, h⟩ := bind_eq_ok_iff.mp h
        have harray : (Spelling.array item size).Sized := ⟨hitem, isLength_of_readSize hsize⟩
        exact ih harray h
    · cases h
      exact hitem

theorem sized_of_readRoot {cs rest : List Char} {s : Spelling} (h : readRoot cs = .ok (s, rest)) :
    s.Sized := by
  rw [readRoot] at h
  split at h
  · cases h
  · cases h
    trivial
  · cases h
    trivial

-- The three readers share their fuel, and the induction is on it.
mutual
theorem sized_of_readSpelling (fuel : Nat) {depth : Nat} {cs rest : List Char} {s : Spelling}
    (h : readSpelling fuel depth cs = .ok (s, rest)) : s.Sized := by
  cases fuel with
  | zero => cases h
  | succ fuel =>
    unfold readSpelling at h
    split at h
    · obtain ⟨⟨item, behind⟩, hitem, h⟩ := bind_eq_ok_iff.mp h
      exact sized_of_readSizes (sized_of_readTuple fuel hitem) h
    · obtain ⟨⟨item, behind⟩, hitem, h⟩ := bind_eq_ok_iff.mp h
      exact sized_of_readSizes (sized_of_readTuple fuel hitem) h
    · obtain ⟨⟨item, behind⟩, hitem, h⟩ := bind_eq_ok_iff.mp h
      exact sized_of_readSizes (sized_of_readRoot hitem) h

theorem sized_of_readTuple (fuel : Nat) {depth : Nat} {cs rest : List Char} {s : Spelling}
    (h : readTuple fuel depth cs = .ok (s, rest)) : s.Sized := by
  cases fuel with
  | zero => cases h
  | succ fuel =>
    unfold readTuple at h
    split at h
    · cases h
    · split at h
      · cases h
        trivial
      · obtain ⟨⟨item, behind⟩, hitem, h⟩ := bind_eq_ok_iff.mp h
        obtain ⟨⟨items, behind'⟩, hitems, h⟩ := bind_eq_ok_iff.mp h
        obtain ⟨behind'', -, h⟩ := bind_eq_ok_iff.mp h
        cases h
        exact ⟨sized_of_readSpelling fuel hitem, sized_of_readItems fuel hitems⟩

theorem sized_of_readItems (fuel : Nat) {depth : Nat} {cs rest : List Char} {ss : List Spelling}
    (h : readItems fuel depth cs = .ok (ss, rest)) : Spelling.AllSized ss := by
  cases fuel with
  | zero => cases h
  | succ fuel =>
    unfold readItems at h
    split at h
    · split at h
      · rename_i item behind hitem
        obtain ⟨⟨items, behind'⟩, hitems, h⟩ := bind_eq_ok_iff.mp h
        cases h
        exact ⟨sized_of_readSpelling fuel hitem, sized_of_readItems fuel hitems⟩
      · split at h
        · cases h
        · cases h
          trivial
    · cases h
      trivial
end

theorem sized_of_parse {text : String} {s : Spelling} (h : Spelling.parse text = .ok s) :
    s.Sized := by
  simp only [Spelling.parse] at h
  split at h
  · rename_i hread
    cases h
    exact sized_of_readSpelling _ hread
  · cases h
  · cases h

/-! ## What it stands for is well formed -/

/-- A size that a type may have is taken, and any other is refused. -/
theorem wellFormed_of_size {t : Ty} {f : Nat → Ty} {p : Nat → Prop} [DecidablePred p]
    {size : Option Nat} {fault : TypeFault}
    (h : (match size with
      | some n => if p n then .ok (f n) else .error fault
      | none => .error fault) = Except.ok t) (hf : ∀ n, p n → (f n).WellFormed) :
    t.WellFormed := by
  split at h
  · split at h
    · cases h
      exact hf _ ‹_›
    · cases h
  · cases h

theorem wellFormed_of_ofRoot {name : String} {t : Ty} (h : Ty.ofRoot name = .ok t) :
    t.WellFormed := by
  unfold Ty.ofRoot at h
  split at h
  iterate 5
    cases h
    trivial
  split at h
  · exact wellFormed_of_size h fun _ hn => hn
  · exact wellFormed_of_size h fun _ hn => hn
  · exact wellFormed_of_size h fun _ hn => hn
  · cases h

theorem map_eq_ok_iff {ε α β : Type} {x : Except ε α} {f : α → β} {b : β} :
    x.map f = .ok b ↔ ∃ a, x = .ok a ∧ f a = b := by
  cases x <;> simp [Except.map]

mutual
theorem wellFormed_of_resolve (s : Spelling) {t : Ty} (hs : s.Sized) (h : s.resolve = .ok t) :
    t.WellFormed := by
  cases s with
  | root name => exact wellFormed_of_ofRoot h
  | tuple items =>
    obtain ⟨ts, hts, rfl⟩ := map_eq_ok_iff.mp h
    exact allWellFormed_of_resolveAll items hs hts
  | array item size =>
    cases size with
    | none =>
      obtain ⟨t', ht, rfl⟩ := map_eq_ok_iff.mp h
      have hitem : t'.WellFormed := wellFormed_of_resolve item hs.1 ht
      exact hitem
    | some n =>
      obtain ⟨t', ht, rfl⟩ := map_eq_ok_iff.mp h
      exact ⟨wellFormed_of_resolve item hs.1 ht, hs.2 n rfl⟩

theorem allWellFormed_of_resolveAll (ss : List Spelling) {ts : List Ty}
    (hss : Spelling.AllSized ss) (h : Spelling.resolveAll ss = .ok ts) : Ty.AllWellFormed ts := by
  cases ss with
  | nil =>
    cases h
    trivial
  | cons s ss =>
    rw [Spelling.resolveAll] at h
    obtain ⟨t, ht, h⟩ := bind_eq_ok_iff.mp h
    obtain ⟨ts, hts, h⟩ := bind_eq_ok_iff.mp h
    cases h
    exact ⟨wellFormed_of_resolve s hss.1 ht, allWellFormed_of_resolveAll ss hss.2 hts⟩
end

theorem wellFormed_wrap {root : Ty} (hroot : root.WellFormed) (s : Spelling) (hs : s.Sized) :
    (s.wrap root).WellFormed := by
  cases s with
  | root name => exact hroot
  | tuple items => exact hroot
  | array item size =>
    cases size with
    | none => exact wellFormed_wrap hroot item hs.1
    | some n => exact ⟨wellFormed_wrap hroot item hs.1, hs.2 n rfl⟩

namespace Param

mutual
/-- Parameters stand for types of call data. -/
theorem wellFormed_of_resolve (p : Param) {t : Ty} (h : p.resolve = .ok t) : t.WellFormed := by
  cases p with
  | mk name type components =>
    rw [resolve] at h
    obtain ⟨s, hs, h⟩ := bind_eq_ok_iff.mp h
    split at h
    · exact Abi.wellFormed_of_resolve s (sized_of_parse hs) h
    · obtain ⟨ts, hts, h⟩ := bind_eq_ok_iff.mp h
      cases h
      have hroot : (Ty.tuple ts).WellFormed := allWellFormed_of_resolveAll components hts
      exact wellFormed_wrap hroot s (sized_of_parse hs)

theorem allWellFormed_of_resolveAll (ps : List Param) {ts : List Ty}
    (h : resolveAll ps = .ok ts) : Ty.AllWellFormed ts := by
  cases ps with
  | nil =>
    cases h
    trivial
  | cons p ps =>
    obtain ⟨t, ts, ht, hts, rfl⟩ := resolveAll_cons_eq_ok h
    exact ⟨wellFormed_of_resolve p ht, allWellFormed_of_resolveAll ps hts⟩
end

end Param

/-! ## Every type of call data is spelled -/

/-- The digits in the brackets of an array. -/
def lengthDigits (size : Option Nat) : List Char := size.elim [] fun n => (Text.decimal n).toList

/-- The brackets of an array. -/
def bracket (size : Option Nat) : List Char := '[' :: (lengthDigits size ++ [']'])

/-- The brackets of arrays inside one another, the innermost first. -/
def brackets (sizes : List (Option Nat)) : List Char := sizes.flatMap bracket

theorem isDigit_lengthDigits (size : Option Nat) : ∀ c ∈ lengthDigits size, c.isDigit = true := by
  cases size with
  | none => exact fun _ hc => nomatch hc
  | some n => exact (Text.isDigits_decimal n).2

theorem readSize_lengthDigits {size : Option Nat} (h : IsLength size) (rest : List Char) :
    readSize (lengthDigits size ++ ']' :: rest) = .ok (size, ']' :: rest) := by
  obtain ⟨htake, hdrop⟩ := Text.takeWhile_isDigit (']' :: rest) (isDigit_lengthDigits size)
    (by simp)
  rw [readSize, htake, hdrop]
  cases size with
  | none => rfl
  | some n =>
    obtain ⟨hpos, hlt⟩ := h n rfl
    have hne : (lengthDigits (some n)).isEmpty = false := by
      simpa [lengthDigits] using (Text.isDigits_decimal n).1
    have hnumber : Text.number (lengthDigits (some n)) = n := Text.number_decimal n
    have htwo : n < twoTo 64 := hlt
    simp [hne, hnumber, Nat.ne_of_gt hpos, htwo]

/-- Brackets are read one after the other. -/
theorem readSizes_brackets {sizes : List (Option Nat)} (h : ∀ size ∈ sizes, IsLength size)
    {fuel : Nat} (hfuel : sizes.length ≤ fuel) (item : Spelling) (isFirst : Bool) :
    readSizes item isFirst fuel (brackets sizes) = .ok (sizes.foldl Spelling.array item, []) := by
  induction sizes generalizing fuel item isFirst with
  | nil => cases fuel <;> rfl
  | cons size sizes ih =>
    rw [List.forall_mem_cons] at h
    have hbrackets : brackets (size :: sizes) =
        '[' :: (lengthDigits size ++ ']' :: brackets sizes) := by
      simp [brackets, bracket]
    cases fuel with
    | zero => exact absurd hfuel (Nat.not_succ_le_zero _)
    | succ fuel =>
      rw [hbrackets, readSizes, readSize_lengthDigits h.1]
      exact ih h.2 (Nat.le_of_succ_le_succ hfuel) (.array item size) false

theorem notMem_brackets (sizes : List (Option Nat)) : '(' ∉ brackets sizes := by
  intro hmem
  obtain ⟨size, -, hmem⟩ := List.mem_flatMap.mp hmem
  simp only [bracket, List.mem_cons, List.mem_append, List.not_mem_nil, or_false] at hmem
  rcases hmem with h | h | h
  · exact absurd h (by decide)
  · exact absurd (isDigit_lengthDigits size _ h) (by decide)
  · exact absurd h (by decide)

theorem length_le_length_brackets (sizes : List (Option Nat)) :
    sizes.length ≤ (brackets sizes).length := by
  induction sizes with
  | nil => exact Nat.le_refl 0
  | cons size sizes ih =>
    rw [brackets, List.flatMap_cons, List.length_append, bracket, List.length_cons,
      List.length_cons]
    have hrest : (brackets sizes).length = (sizes.flatMap bracket).length := rfl
    omega

/-- A text is read as the root of a type, with any brackets behind it. -/
def Leads (text : List Char) (item : Spelling) : Prop :=
  ∀ (fuel : Nat) (sizes : List (Option Nat)), readSpelling (fuel + 2) 0 (text ++ brackets sizes) =
    readSizes item true ((brackets sizes).length + 1) (brackets sizes)

theorem leads_unit : Leads ['(', ')'] (.tuple []) := fun _ _ => rfl

theorem takeWhile_isNamePart {cs : List Char} (h : ∀ c ∈ cs, isNamePart c = true)
    (sizes : List (Option Nat)) :
    (cs ++ brackets sizes).takeWhile isNamePart = cs ∧
      (cs ++ brackets sizes).dropWhile isNamePart = brackets sizes := by
  have hstop : (brackets sizes).takeWhile isNamePart = [] ∧
      (brackets sizes).dropWhile isNamePart = brackets sizes := by
    cases sizes with
    | nil => exact ⟨rfl, rfl⟩
    | cons size sizes => exact ⟨rfl, rfl⟩
  rw [List.takeWhile_append_of_pos h, List.dropWhile_append_of_pos h, hstop.1, hstop.2,
    List.append_nil]
  exact ⟨rfl, rfl⟩

theorem leads_name {name : String} (hname : isIdentifier name = true) (hwide : wide name = name) :
    Leads name.toList (.root name) := by
  intro fuel sizes
  rw [isIdentifier] at hname
  cases hcs : name.toList with
  | nil =>
    rw [hcs] at hname
    cases hname
  | cons c cs =>
    simp only [hcs, Bool.and_eq_true, List.all_eq_true] at hname
    obtain ⟨hc, hpart⟩ := hname
    have hopen : '(' ∉ c :: cs ++ brackets sizes := by
      rw [List.mem_append, List.mem_cons]
      rintro ((rfl | h) | h)
      · exact absurd hc (by decide)
      · exact absurd (hpart _ h) (by decide)
      · exact notMem_brackets sizes h
    have hroot : readRoot (c :: cs ++ brackets sizes) = .ok (.root name, brackets sizes) := by
      obtain ⟨htake, hdrop⟩ := takeWhile_isNamePart hpart sizes
      have hread : readName (c :: cs ++ brackets sizes) = some (name.toList, brackets sizes) := by
        rw [List.cons_append, readName, if_pos hc, htake, hdrop, hcs]
      conv_rhs => rw [← hwide, ← String.ofList_toList (s := name)]
      rw [readRoot, hread]
      cases sizes <;> rfl
    unfold readSpelling
    split
    · rename_i h
      exact absurd (h ▸ List.mem_cons_self) hopen
    · rename_i h
      exact absurd (h ▸ by simp) hopen
    · rw [hroot]
      rfl

/-- What stands before brackets is spelled with them. -/
theorem Leads.parse {text : List Char} {item : Spelling} (h : Leads text item)
    {sizes : List (Option Nat)} (hsizes : ∀ size ∈ sizes, IsLength size) :
    Spelling.parse (String.ofList (text ++ brackets sizes)) =
      .ok (sizes.foldl Spelling.array item) := by
  have hfuel : sizes.length ≤ (brackets sizes).length + 1 :=
    Nat.le_succ_of_le (length_le_length_brackets sizes)
  simp only [Spelling.parse, String.toList_ofList]
  rw [h _ sizes, readSizes_brackets hsizes hfuel]

/-- An array of a type, with this length in its brackets. -/
def Ty.arrayOf (item : Ty) (size : Option Nat) : Ty := size.elim (.array item) (.fixedArray item)

theorem resolve_arrays (item : Spelling) (sizes : List (Option Nat)) :
    (sizes.foldl Spelling.array item).resolve =
      item.resolve.map fun t => sizes.foldl Ty.arrayOf t := by
  induction sizes generalizing item with
  | nil => cases h : item.resolve <;> simp [Except.map, h]
  | cons size sizes ih =>
    rw [List.foldl_cons, ih]
    cases size with
    | none => cases h : item.resolve <;> simp [Spelling.resolve, Except.map, h, Ty.arrayOf]
    | some n => cases h : item.resolve <;> simp [Spelling.resolve, Except.map, h, Ty.arrayOf]

theorem wrap_arrays (root : Ty) (item : Spelling) (sizes : List (Option Nat)) :
    (sizes.foldl Spelling.array item).wrap root = sizes.foldl Ty.arrayOf (item.wrap root) := by
  induction sizes generalizing item with
  | nil => rfl
  | cons size sizes ih =>
    rw [List.foldl_cons, ih]
    cases size <;> rfl

/-- A type that is the root of this name. -/
structure Ty.NamedBy (t : Ty) (name : String) : Prop where
  isIdentifier : Abi.isIdentifier name = true
  wide : Abi.wide name = name
  root : Ty.ofRoot name = .ok t

theorem namedBy_fixedBytes {size : Nat} (hpos : 0 < size) (hle : size ≤ 32) :
    (Ty.fixedBytes size).NamedBy ("bytes" ++ Text.decimal size) := by
  interval_cases size
  all_goals exact ⟨rfl, rfl, rfl⟩

theorem namedBy_uint {bits : Nat} (hpos : 0 < bits) (hle : bits ≤ 256) (hbytes : bits % 8 = 0) :
    (Ty.uint bits).NamedBy ("uint" ++ Text.decimal bits) := by
  obtain ⟨size, rfl⟩ := Nat.dvd_of_mod_eq_zero hbytes
  have hsize : 0 < size ∧ size ≤ 32 := by omega
  obtain ⟨hpos, hle⟩ := hsize
  interval_cases size
  all_goals exact ⟨rfl, rfl, rfl⟩

theorem namedBy_int {bits : Nat} (hpos : 0 < bits) (hle : bits ≤ 256) (hbytes : bits % 8 = 0) :
    (Ty.int bits).NamedBy ("int" ++ Text.decimal bits) := by
  obtain ⟨size, rfl⟩ := Nat.dvd_of_mod_eq_zero hbytes
  have hsize : 0 < size ∧ size ≤ 32 := by omega
  obtain ⟨hpos, hle⟩ := hsize
  interval_cases size
  all_goals exact ⟨rfl, rfl, rfl⟩

namespace Param

/-- Arrays of a type are spelled, of any lengths and any depth.  The type of the items is spelled with
the brackets of what it is in, so that no text has to be taken apart. -/
def SpellsArrays (t : Ty) : Prop :=
  ∀ sizes : List (Option Nat), (∀ size ∈ sizes, IsLength size) →
    ∃ p : Param, p.resolve = .ok (sizes.foldl Ty.arrayOf t)

theorem spellsArrays_of_namedBy {t : Ty} {name : String} (h : t.NamedBy name) :
    SpellsArrays t := by
  intro sizes hsizes
  refine ⟨.mk "" (String.ofList (name.toList ++ brackets sizes)) [], ?_⟩
  rw [resolve, (leads_name h.isIdentifier h.wide).parse hsizes]
  refine (resolve_arrays _ sizes).trans ?_
  rw [Spelling.resolve, h.root]
  rfl

theorem spellsArrays_unit : SpellsArrays (.tuple []) := by
  intro sizes hsizes
  refine ⟨.mk "" (String.ofList (['(', ')'] ++ brackets sizes)) [], ?_⟩
  rw [resolve, leads_unit.parse hsizes]
  exact resolve_arrays _ sizes

theorem spellsArrays_tuple {p : Param} {ps : List Param} {ts : List Ty}
    (h : resolveAll (p :: ps) = .ok ts) : SpellsArrays (.tuple ts) := by
  intro sizes hsizes
  have hleads : Leads "tuple".toList (.root "tuple") := leads_name rfl rfl
  refine ⟨.mk "" (String.ofList ("tuple".toList ++ brackets sizes)) (p :: ps), ?_⟩
  rw [resolve, hleads.parse hsizes]
  simp only [List.isEmpty_cons, Bool.false_eq_true, if_false, h]
  exact congrArg Except.ok (wrap_arrays (.tuple ts) (.root "tuple") sizes)

mutual
theorem spellsArrays (t : Ty) (h : t.WellFormed) : SpellsArrays t := by
  cases t with
  | bool =>
    have hname : Ty.bool.NamedBy "bool" := ⟨rfl, rfl, rfl⟩
    exact spellsArrays_of_namedBy hname
  | address =>
    have hname : Ty.address.NamedBy "address" := ⟨rfl, rfl, rfl⟩
    exact spellsArrays_of_namedBy hname
  | function =>
    have hname : Ty.function.NamedBy "function" := ⟨rfl, rfl, rfl⟩
    exact spellsArrays_of_namedBy hname
  | bytes =>
    have hname : Ty.bytes.NamedBy "bytes" := ⟨rfl, rfl, rfl⟩
    exact spellsArrays_of_namedBy hname
  | string =>
    have hname : Ty.string.NamedBy "string" := ⟨rfl, rfl, rfl⟩
    exact spellsArrays_of_namedBy hname
  | int bits => exact spellsArrays_of_namedBy (namedBy_int h.1 h.2.1 h.2.2)
  | uint bits => exact spellsArrays_of_namedBy (namedBy_uint h.1 h.2.1 h.2.2)
  | fixedBytes size => exact spellsArrays_of_namedBy (namedBy_fixedBytes h.1 h.2)
  | array item =>
    intro sizes hsizes
    exact spellsArrays item h (none :: sizes) (List.forall_mem_cons.mpr ⟨isLength_none, hsizes⟩)
  | fixedArray item size =>
    intro sizes hsizes
    exact spellsArrays item h.1 (some size :: sizes)
      (List.forall_mem_cons.mpr ⟨isLength_some h.2, hsizes⟩)
  | tuple items =>
    obtain ⟨ps, hps⟩ := exists_resolveAll items h
    cases ps with
    | nil =>
      cases hps
      exact spellsArrays_unit
    | cons p ps => exact spellsArrays_tuple hps

theorem exists_resolveAll (ts : List Ty) (h : Ty.AllWellFormed ts) :
    ∃ ps, resolveAll ps = .ok ts := by
  cases ts with
  | nil => exact ⟨[], rfl⟩
  | cons t ts =>
    obtain ⟨p, hp⟩ := spellsArrays t h.1 [] (fun _ hsize => nomatch hsize)
    obtain ⟨ps, hps⟩ := exists_resolveAll ts h.2
    refine ⟨p :: ps, ?_⟩
    rw [resolveAll, hp, hps]
    rfl
end

/-- Parameters stand for the types of call data, all of them and no others. -/
theorem exists_resolveAll_iff {ts : List Ty} :
    (∃ ps, resolveAll ps = .ok ts) ↔ Ty.AllWellFormed ts :=
  ⟨fun ⟨ps, h⟩ => allWellFormed_of_resolveAll ps h, exists_resolveAll ts⟩

end Param

end TokenLaunch.Abi
