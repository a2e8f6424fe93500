import TokenLaunch.Proofs.Abi.Word

/-!
# Heads and tails

Where the parts of call data stand: each has its head behind the heads of the parts before it, and
what has a tail has it at the place that its head tells.
-/

namespace TokenLaunch.Abi

/-- All tails, one behind the other. -/
def tails (ps : List Part) : List UInt8 := ps.flatMap Part.tail

theorem tails_cons (p : Part) (ps : List Part) : tails (p :: ps) = p.tail ++ tails ps :=
  List.flatMap_cons

theorem tails_append (ps qs : List Part) : tails (ps ++ qs) = tails ps ++ tails qs :=
  List.flatMap_append

theorem headSize_append (ps qs : List Part) : headSize (ps ++ qs) = headSize ps + headSize qs := by
  induction ps with
  | nil => rw [List.nil_append, headSize, Nat.zero_add]
  | cons p ps ih => rw [List.cons_append, headSize, headSize, ih, Nat.add_assoc]

/-- What stands in the head for a part whose tail would begin at `offset`. -/
def Part.head (offset : Nat) (p : Part) : List UInt8 := if p.isDynamic then word offset else p.bytes

theorem Part.length_head (offset : Nat) (p : Part) : (p.head offset).length = p.headSize := by
  rw [head, headSize]
  cases p.isDynamic with
  | true => exact length_word offset
  | false => rfl

theorem heads_cons (offset : Nat) (p : Part) (ps : List Part) :
    heads offset (p :: ps) = p.head offset ++ heads (offset + p.tail.length) ps := rfl

theorem heads_append (offset : Nat) (ps qs : List Part) :
    heads offset (ps ++ qs) = heads offset ps ++ heads (offset + (tails ps).length) qs := by
  induction ps generalizing offset with
  | nil => rfl
  | cons p ps ih =>
    rw [List.cons_append, heads_cons, ih, heads_cons, tails_cons, List.length_append,
      List.append_assoc, Nat.add_assoc]

theorem length_heads (offset : Nat) (ps : List Part) : (heads offset ps).length = headSize ps := by
  induction ps generalizing offset with
  | nil => rfl
  | cons p ps ih => rw [heads_cons, List.length_append, p.length_head, ih, headSize]

theorem assemble_eq (ps : List Part) : assemble ps = heads (headSize ps) ps ++ tails ps := rfl

theorem length_assemble (ps : List Part) :
    (assemble ps).length = headSize ps + (tails ps).length := by
  rw [assemble_eq, List.length_append, length_heads]

/-! ## One part among others -/

variable (before : List Part) (p : Part) (after : List Part)

/-- Where the tail of a part begins that stands between others. -/
def tailPlace : Nat := headSize (before ++ p :: after) + (tails before).length

/-- The head of a part stands behind the heads of the parts before it. -/
theorem exists_drop_headSize (rest : List UInt8) :
    ∃ more, (assemble (before ++ p :: after) ++ rest).drop (headSize before) =
      p.head (tailPlace before p after) ++ more := by
  refine ⟨heads (tailPlace before p after + p.tail.length) after ++
    (tails (before ++ p :: after) ++ rest), ?_⟩
  rw [assemble_eq, heads_append, heads_cons, List.append_assoc, List.append_assoc,
    List.append_assoc, List.drop_left' (length_heads _ _), tailPlace]

/-- The tail of a part stands behind all heads and the tails of the parts before it. -/
theorem exists_drop_tailPlace (rest : List UInt8) :
    ∃ more, (assemble (before ++ p :: after) ++ rest).drop (tailPlace before p after) =
      p.tail ++ more := by
  refine ⟨tails after ++ rest, ?_⟩
  have hlength : (heads (headSize (before ++ p :: after)) (before ++ p :: after) ++
      tails before).length = tailPlace before p after := by
    rw [List.length_append, length_heads, tailPlace]
  rw [assemble_eq, tails_append, tails_cons, ← List.append_assoc, List.append_assoc _ _ rest,
    List.drop_left' hlength, List.append_assoc]

theorem tailPlace_le_length :
    tailPlace before p after ≤ (assemble (before ++ p :: after)).length := by
  rw [length_assemble, tailPlace, tails_append, List.length_append]
  omega

/-- No part is longer than the whole. -/
theorem length_bytes_le_length :
    p.bytes.length ≤ (assemble (before ++ p :: after)).length := by
  have hpart : p.bytes.length ≤ p.headSize + p.tail.length := by
    rw [Part.headSize, Part.tail]
    split <;> omega
  rw [length_assemble, headSize_append, headSize, tails_append, tails_cons, List.length_append,
    List.length_append]
  omega

/-! ## Whole words -/

theorem dvd_length_padRight (bytes : List UInt8) : 32 ∣ (padRight bytes).length := by
  rw [length_padRight]
  exact Nat.dvd_mul_right _ _

theorem dvd_length_counted (bytes : List UInt8) : 32 ∣ (counted bytes).length := by
  rw [length_counted]
  exact Nat.dvd_mul_right _ _

theorem dvd_length_word (n : Nat) : 32 ∣ (word n).length := by rw [length_word]

/-- Parts of whole words make up whole words. -/
theorem dvd_length_assemble {ps : List Part} (h : ∀ p ∈ ps, 32 ∣ p.bytes.length) :
    32 ∣ (assemble ps).length := by
  rw [length_assemble]
  induction ps with
  | nil => exact Nat.dvd_zero 32
  | cons p ps ih =>
    rw [List.forall_mem_cons] at h
    have hpart : 32 ∣ p.headSize + p.tail.length := by
      rw [Part.headSize, Part.tail]
      split
      · exact Nat.dvd_add (Nat.dvd_refl 32) h.1
      · exact h.1
    rw [headSize, tails_cons, List.length_append, Nat.add_add_add_comm]
    exact Nat.dvd_add hpart (ih h.2)

mutual
theorem Value.dvd_length_encode (v : Value) : 32 ∣ v.encode.length := by
  cases v with
  | bool | int | uint | address => exact dvd_length_word _
  | fixedBytes bs => exact dvd_length_padRight bs
  | bytes bs => exact dvd_length_counted bs
  | string s => exact dvd_length_counted (utf8 s)
  | array items =>
    rw [Value.encode, List.length_append]
    exact Nat.dvd_add (dvd_length_word _) (dvd_length_assemble (Value.dvd_length_parts items))
  | fixedArray items => exact dvd_length_assemble (Value.dvd_length_parts items)
  | tuple items => exact dvd_length_assemble (Value.dvd_length_parts items)

theorem Value.dvd_length_parts (vs : List Value) :
    ∀ p ∈ Value.parts vs, 32 ∣ p.bytes.length := by
  cases vs with
  | nil => exact fun _ hp => absurd hp List.not_mem_nil
  | cons v vs =>
    exact List.forall_mem_cons.mpr ⟨v.dvd_length_encode, Value.dvd_length_parts vs⟩
end

/-- Arguments fill whole words. -/
theorem dvd_length_encodeArguments (vs : List Value) : 32 ∣ (encodeArguments vs).length :=
  dvd_length_assemble (Value.dvd_length_parts vs)

end TokenLaunch.Abi
