import TokenLaunch.Hex

/-!
# Tables of characters

A property of characters is kept as blocks of neighbouring code points, in ascending order, and
the block of a character is found by halving.
-/

namespace TokenLaunch.Unicode

/-- Neighbouring code points that have something in common. -/
structure Block (α : Type) where
  first : Nat
  last : Nat
  value : α
deriving Repr

abbrev Table (α : Type) := Array (Block α)

/-! ## Rows -/

/-- The number that hexadecimal digits stand for. -/
def codePoint (cs : List Char) : Nat := cs.foldl (fun n c => 16 * n + (Hex.value? c).getD 0) 0

variable {α : Type}

/-- The block of a text: a code point, or the first and the last with a hyphen between them, and
the text of the value after an equals sign. -/
def Block.ofChars (value : List Char → α) (cs : List Char) : Block α :=
  let ends := cs.takeWhile (· != '=')
  let first := ends.takeWhile (· != '-')
  let last := ends.drop (first.length + 1)
  { first := codePoint first, last := codePoint (if last.isEmpty then first else last),
    value := value (cs.drop (ends.length + 1)) }

/-- The table of rows in which blanks divide the blocks. -/
def Table.ofRows (value : List Char → α) (rows : List String) : Table α :=
  ((rows.flatMap (·.splitOn " ")).map fun s => Block.ofChars value s.toList).toArray

/-- The table of a property that a character has or has not. -/
def Table.ofRanges (rows : List String) : Table Unit := Table.ofRows (fun _ => ()) rows

/-! ## Look-up -/

namespace Table

/-- The block of a code point among those from one place up to another. -/
def search (t : Table α) (n low high : Nat) : Option (Block α) :=
  if low < high then
    let middle := (low + high) / 2
    match t[middle]? with
    | none => none
    | some b =>
      if n < b.first then search t n low middle
      else if b.last < n then search t n (middle + 1) high
      else some b
  else none
termination_by high - low

/-- The block of a character. -/
def block? (t : Table α) (c : Char) : Option (Block α) := t.search c.toNat 0 t.size

/-- What the table holds of a character. -/
def value? (t : Table α) (c : Char) : Option α := (t.block? c).map (·.value)

def has (t : Table α) (c : Char) : Bool := (t.block? c).isSome

theorem search_bounds (t : Table α) (n low high : Nat) (b : Block α)
    (h : t.search n low high = some b) : b.first ≤ n ∧ n ≤ b.last := by
  fun_induction search t n low high with
  | case1 => simp at h
  | case2 low high _ _ _ _ _ ih => exact ih h
  | case3 low high _ _ _ _ _ _ ih => exact ih h
  | case4 low high _ _ _ _ notBelow notAbove =>
    obtain rfl := Option.some.inj h
    exact ⟨Nat.le_of_not_lt notBelow, Nat.le_of_not_lt notAbove⟩
  | case5 => simp at h

/-- A character lies between the ends of its block. -/
theorem block?_bounds (t : Table α) (c : Char) (b : Block α) (h : t.block? c = some b) :
    b.first ≤ c.toNat ∧ c.toNat ≤ b.last := t.search_bounds c.toNat 0 t.size b h

end Table

end TokenLaunch.Unicode
