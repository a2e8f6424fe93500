/-!
# Powers

Powers of two and ten: the bounds of numbers of so many bits or digits.
-/

namespace TokenLaunch

/-- One more than the largest number of so many bits. -/
def twoTo (bits : Nat) : Nat := Nat.pow 2 bits

/-- One more than the largest number of so many decimal digits. -/
def tenTo (digits : Nat) : Nat := Nat.pow 10 digits

theorem twoTo_zero : twoTo 0 = 1 := rfl

theorem twoTo_succ (bits : Nat) : twoTo (bits + 1) = twoTo bits * 2 := rfl

theorem tenTo_zero : tenTo 0 = 1 := rfl

theorem tenTo_succ (digits : Nat) : tenTo (digits + 1) = tenTo digits * 10 := rfl

theorem twoTo_pos (bits : Nat) : 0 < twoTo bits := by
  induction bits with
  | zero => exact Nat.one_pos
  | succ bits ih =>
    rw [twoTo_succ]
    exact Nat.mul_pos ih Nat.two_pos

theorem tenTo_pos (digits : Nat) : 0 < tenTo digits := by
  induction digits with
  | zero => exact Nat.one_pos
  | succ digits ih =>
    rw [tenTo_succ]
    exact Nat.mul_pos ih (by decide)

end TokenLaunch
