import TokenLaunch.Proofs.Abi.Layout
import TokenLaunch.Proofs.Abi.Arguments
import TokenLaunch.Proofs.Utf8

/-!
# Reading call data

A decoder that goes by types alone.  It follows the words of the head to the tails, so that it reads
call data in any layout; what an encoder wrote it reads back.
-/

namespace TokenLaunch.Abi

/-! ## Words and counted bytes -/

/-- The number in the word that data begin with. -/
def readWord (data : List UInt8) : Option Nat :=
  if 32 ≤ data.length then some (numberOf (data.take 32)) else none

/-- So many bytes at the beginning of data. -/
def readBytes (size : Nat) (data : List UInt8) : Option (List UInt8) :=
  if size ≤ data.length then some (data.take size) else none

/-- A number in a word and that many bytes behind it. -/
def readCounted (data : List UInt8) : Option (List UInt8) := do
  let size ← readWord data
  readBytes size (data.drop 32)

theorem readWord_append (n : Nat) (rest : List UInt8) :
    readWord (word n ++ rest) = some (n % 2 ^ 256) := by
  have hlength : 32 ≤ (word n ++ rest).length := by
    rw [List.length_append, length_word]
    exact Nat.le_add_right _ _
  rw [readWord, if_pos hlength, List.take_left' (length_word n), numberOf_word]

theorem readBytes_append (bytes rest : List UInt8) :
    readBytes bytes.length (bytes ++ rest) = some bytes := by
  have hlength : bytes.length ≤ (bytes ++ rest).length := by
    rw [List.length_append]
    exact Nat.le_add_right _ _
  rw [readBytes, if_pos hlength, List.take_left]

theorem readCounted_append {bytes : List UInt8} (h : bytes.length < 2 ^ 256)
    (rest : List UInt8) : readCounted (counted bytes ++ rest) = some bytes := by
  rw [readCounted, counted, List.append_assoc, readWord_append, Nat.mod_eq_of_lt h,
    Option.bind_eq_bind, Option.bind_some, List.drop_left' (length_word _), padRight,
    List.append_assoc, readBytes_append]

/-- The number of a word with a sign. -/
def signed (n : Nat) : Int := if n < 2 ^ 255 then n else n - 2 ^ 256

theorem signed_emod {n : Int} (hlow : -2 ^ 255 ≤ n) (hhigh : n < 2 ^ 255) :
    signed (n % (twoTo 256 : Nat)).toNat = n := by
  have htwo : ((twoTo 256 : Nat) : Int) = 2 ^ 256 := rfl
  rw [signed, htwo]
  split <;> omega

/-- The text of bytes in UTF-8. -/
def readText (bytes : List UInt8) : Option String := String.fromUTF8? bytes.toByteArray

theorem readText_utf8 (s : String) : readText (utf8 s) = some s := by
  have hbytes : (utf8 s).toByteArray = s.toUTF8 := by
    apply ByteArray.ext
    rw [List.data_toByteArray, utf8, ByteArray.toList, Text.toList_loop, List.drop_zero,
      List.reverse_nil, List.nil_append, Array.toArray_toList]
  rw [readText, hbytes]
  unfold String.fromUTF8?
  rw [String.toUTF8_eq_toByteArray, dif_pos s.isValidUTF8]
  rfl

/-! ## Components -/

/-- How one component of call data is read: whether it stands in the tail, what it takes up of the
head, and what its bytes say. -/
structure Slot where
  isDynamic : Bool
  headSize : Nat
  decode : List UInt8 → Option Value

/-- The component whose head stands at a place. -/
def Slot.read (s : Slot) (data : List UInt8) (place : Nat) : Option Value :=
  if s.isDynamic then do
    let offset ← readWord (data.drop place)
    s.decode (data.drop offset)
  else s.decode (data.drop place)

/-- Components whose heads stand one behind the other, from a place on. -/
def readSlots (data : List UInt8) : Nat → List Slot → Option (List Value)
  | _, [] => some []
  | place, s :: ss => do
    let v ← s.read data place
    let vs ← readSlots data (place + s.headSize) ss
    some (v :: vs)

mutual
/-- Whether the encodings of a type differ in size. -/
def Ty.isDynamic : Ty → Bool
  | .bytes | .string | .array _ => true
  | .fixedArray item _ => item.isDynamic
  | .tuple items => Ty.anyDynamic items
  | _ => false

def Ty.anyDynamic : List Ty → Bool
  | [] => false
  | t :: ts => t.isDynamic || Ty.anyDynamic ts
end

mutual
/-- What a type takes up of the head, in bytes. -/
def Ty.headSize : Ty → Nat
  | .fixedArray item size => if item.isDynamic then 32 else size * item.headSize
  | .tuple items => if Ty.anyDynamic items then 32 else Ty.headSizes items
  | _ => 32

def Ty.headSizes : List Ty → Nat
  | [] => 0
  | t :: ts => t.headSize + Ty.headSizes ts
end

mutual
/-- The value of a type that data begin with.  The words of numbers are not held against the size of
their types. -/
def Ty.decode : Ty → List UInt8 → Option Value
  | .bool, data => do
    match ← readWord data with
    | 0 => some (.bool false)
    | 1 => some (.bool true)
    | _ => none
  | .int bits, data => (readWord data).map fun n => .int (signed n) bits
  | .uint bits, data => (readWord data).map fun n => .uint n bits
  | .fixedBytes size, data => do
    let _ ← readWord data
    let bytes ← readBytes size data
    some (.fixedBytes bytes)
  | .address, data => do
    let n ← readWord data
    if n < 2 ^ 160 then some (.address (BitVec.ofNat 160 n)) else none
  | .function, _ => none
  | .bytes, data => (readCounted data).map .bytes
  | .string, data => (readCounted data).bind fun bytes => (readText bytes).map .string
  | .array item, data => do
    let count ← readWord data
    let slot : Slot := ⟨item.isDynamic, item.headSize, item.decode⟩
    (readSlots (data.drop 32) 0 (List.replicate count slot)).map .array
  | .fixedArray item size, data =>
    let slot : Slot := ⟨item.isDynamic, item.headSize, item.decode⟩
    (readSlots data 0 (List.replicate size slot)).map .fixedArray
  | .tuple items, data => (readSlots data 0 (Ty.slots items)).map .tuple

def Ty.slots : List Ty → List Slot
  | [] => []
  | t :: ts => ⟨t.isDynamic, t.headSize, t.decode⟩ :: Ty.slots ts
end

def Ty.slot (t : Ty) : Slot := ⟨t.isDynamic, t.headSize, t.decode⟩

/-- The arguments of these types that call data hold. -/
def decodeArguments (ts : List Ty) (data : List UInt8) : Option (List Value) :=
  readSlots data 0 (Ty.slots ts)

end TokenLaunch.Abi
