import Mathlib.Data.List.Induction
import Mathlib.Tactic.Ring
import TokenLaunch.Abi.Encoding
import TokenLaunch.Amount

/-!
# Words

The number in a word, and the sizes of what call data is made of.
-/

namespace TokenLaunch.Abi

/-- The number that bytes stand for, the highest first. -/
def numberOf (bytes : List UInt8) : Nat := bytes.foldl (fun n b => 256 * n + b.toNat) 0

/-- The number in the word at a place. -/
def wordAt (data : List UInt8) (place : Nat) : Nat := numberOf ((data.drop place).take 32)

theorem numberOf_append_singleton (bytes : List UInt8) (b : UInt8) :
    numberOf (bytes ++ [b]) = 256 * numberOf bytes + b.toNat := by
  simp [numberOf]

theorem length_bigEndian (count n : Nat) : (bigEndian count n).length = count := by
  induction count generalizing n with
  | zero => rfl
  | succ count ih => rw [bigEndian, List.length_append, ih, List.length_singleton]

theorem length_word (n : Nat) : (word n).length = 32 := length_bigEndian 32 n

/-- What does not fit is cut off at the high end. -/
theorem numberOf_bigEndian (count n : Nat) : numberOf (bigEndian count n) = n % 256 ^ count := by
  induction count generalizing n with
  | zero => simp [bigEndian, numberOf, Nat.mod_one]
  | succ count ih =>
    have hbyte : (UInt8.ofNat n).toNat = n % 256 := rfl
    rw [bigEndian, numberOf_append_singleton, ih, hbyte, pow_succ, mul_comm (256 ^ count),
      Nat.mod_mul]
    omega

theorem numberOf_word (n : Nat) : numberOf (word n) = n % 2 ^ 256 := by
  have hbound : 256 ^ 32 = 2 ^ 256 := by norm_num
  rw [word, numberOf_bigEndian, hbound]

theorem wordAt_append (before rest : List UInt8) (n : Nat) :
    wordAt (before ++ (word n ++ rest)) before.length = n % 2 ^ 256 := by
  rw [wordAt, List.drop_left, List.take_left' (length_word n), numberOf_word]

theorem length_words (ns : List Nat) : (ns.flatMap word).length = 32 * ns.length := by
  induction ns with
  | nil => rfl
  | cons n ns ih =>
    rw [List.flatMap_cons, List.length_append, length_word, ih, List.length_cons]
    omega

/-- Words at the beginning of call data are found by their numbers. -/
theorem wordAt_words {ns : List Nat} {i n : Nat} (h : ns[i]? = some n) (rest : List UInt8) :
    wordAt (ns.flatMap word ++ rest) (32 * i) = n % 2 ^ 256 := by
  obtain ⟨hi, rfl⟩ := List.getElem?_eq_some_iff.mp h
  have hlength : ((ns.take i).flatMap word).length = 32 * i := by
    rw [length_words, List.length_take_of_le (Nat.le_of_lt hi)]
  have hsplit : ns.flatMap word ++ rest =
      (ns.take i).flatMap word ++ (word ns[i] ++ ((ns.drop (i + 1)).flatMap word ++ rest)) := by
    conv_lhs => rw [← List.take_append_drop i ns, List.drop_eq_getElem_cons hi]
    simp only [List.flatMap_append, List.flatMap_cons, List.append_assoc]
  rw [hsplit, ← hlength, wordAt_append]

/-! ## Counted bytes -/

/-- The number of words that so many bytes fill. -/
def wordsFor (size : Nat) : Nat := (size + 31) / 32

theorem padRight_eq (bytes : List UInt8) :
    padRight bytes = bytes ++ List.replicate (32 * wordsFor bytes.length - bytes.length) 0 := by
  have hpad : (32 - bytes.length % 32) % 32 = 32 * wordsFor bytes.length - bytes.length := by
    unfold wordsFor
    omega
  rw [padRight, hpad]

theorem length_padRight (bytes : List UInt8) :
    (padRight bytes).length = 32 * wordsFor bytes.length := by
  have hle : bytes.length ≤ 32 * wordsFor bytes.length := by
    unfold wordsFor
    omega
  rw [padRight_eq, List.length_append, List.length_replicate]
  omega

theorem length_counted (bytes : List UInt8) :
    (counted bytes).length = 32 * (1 + wordsFor bytes.length) := by
  rw [counted, List.length_append, length_word, length_padRight]
  ring

/-- Bytes stand at a place of call data: their number in a word, and behind it the bytes
themselves with zeros up to the end of a word.  Words hold numbers modulo two to the 256th. -/
structure StandsAt (data : List UInt8) (place : Nat) (bytes : List UInt8) : Prop where
  count : wordAt data place = bytes.length % 2 ^ 256
  padded : (data.drop (place + 32)).take (32 * wordsFor bytes.length) =
    bytes ++ List.replicate (32 * wordsFor bytes.length - bytes.length) 0

theorem standsAt_append (before bytes rest : List UInt8) :
    StandsAt (before ++ (counted bytes ++ rest)) before.length bytes where
  count := by
    rw [counted, List.append_assoc, wordAt_append]
  padded := by
    have hbefore : (before ++ word bytes.length).length = before.length + 32 := by
      rw [List.length_append, length_word]
    rw [counted, List.append_assoc, ← List.append_assoc before, ← hbefore, List.drop_left,
      List.take_left' (length_padRight bytes), padRight_eq]

/-- The bytes at the place that a word of the head holds. -/
def bytesOf (data : List UInt8) (slot : Nat) : List UInt8 :=
  (data.drop (wordAt data slot + 32)).take (wordAt data (wordAt data slot))

/-- Bytes are found again by their place in the head, as long as places and numbers of bytes fit
words. -/
theorem StandsAt.bytesOf_eq {data bytes : List UInt8} {slot place : Nat}
    (h : StandsAt data place bytes) (hslot : wordAt data slot = place % 2 ^ 256)
    (hplace : place < 2 ^ 256) (hlength : bytes.length < 2 ^ 256) :
    bytesOf data slot = bytes := by
  have hle : bytes.length ≤ 32 * wordsFor bytes.length := by
    unfold wordsFor
    omega
  have hpadded := congrArg (List.take bytes.length) h.padded
  rw [List.take_take, Nat.min_eq_left hle, List.take_left] at hpadded
  rw [bytesOf, hslot, Nat.mod_eq_of_lt hplace, h.count, Nat.mod_eq_of_lt hlength, hpadded]

end TokenLaunch.Abi
