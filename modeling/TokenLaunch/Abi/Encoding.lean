import TokenLaunch.Abi.Value
import TokenLaunch.Power

/-!
# Call data

Values laid out in words of 32 bytes: what has a fixed size stands in the head, and what has not
stands in the tail, with its place in the head.
-/

namespace TokenLaunch.Abi

/-- The last `count` bytes of a number, the highest first. -/
def bigEndian : Nat → Nat → List UInt8
  | 0, _ => []
  | count + 1, n => bigEndian count (n / 256) ++ [UInt8.ofNat n]

/-- A number in a word. -/
def word (n : Nat) : List UInt8 := bigEndian 32 n

/-- Bytes with zeros after them up to the end of a word. -/
def padRight (bytes : List UInt8) : List UInt8 :=
  bytes ++ List.replicate ((32 - bytes.length % 32) % 32) 0

/-- A length in a word and the bytes after it. -/
def counted (bytes : List UInt8) : List UInt8 := word bytes.length ++ padRight bytes

def utf8 (s : String) : List UInt8 := s.toUTF8.toList

/-- The encoding of one component, and whether it stands in the tail. -/
structure Part where
  bytes : List UInt8
  isDynamic : Bool
deriving DecidableEq, Repr

def Part.headSize (p : Part) : Nat := if p.isDynamic then 32 else p.bytes.length

def Part.tail (p : Part) : List UInt8 := if p.isDynamic then p.bytes else []

def headSize : List Part → Nat
  | [] => 0
  | p :: ps => p.headSize + headSize ps

/-- The heads of the parts, `offset` being where the next tail begins. -/
def heads (offset : Nat) : List Part → List UInt8
  | [] => []
  | p :: ps =>
    (if p.isDynamic then word offset else p.bytes) ++ heads (offset + p.tail.length) ps

/-- All heads and then all tails; places count from the first head. -/
def assemble (ps : List Part) : List UInt8 :=
  heads (headSize ps) ps ++ ps.flatMap Part.tail

mutual
/-- Whether the size of the encoding depends on more than the type. -/
def Value.isDynamic : Value → Bool
  | .bytes _ | .string _ | .array _ => true
  | .fixedArray items | .tuple items => Value.anyDynamic items
  | _ => false

def Value.anyDynamic : List Value → Bool
  | [] => false
  | v :: vs => v.isDynamic || Value.anyDynamic vs
end

mutual
def Value.encode : Value → List UInt8
  | .bool b => word (if b then 1 else 0)
  | .int n _ => word (n % (twoTo 256 : Nat)).toNat
  | .uint n _ => word n
  | .fixedBytes bs => padRight bs
  | .address a => word a.toNat
  | .bytes bs => counted bs
  | .string s => counted (utf8 s)
  | .array items => word items.length ++ assemble (Value.parts items)
  | .fixedArray items => assemble (Value.parts items)
  | .tuple items => assemble (Value.parts items)

def Value.parts : List Value → List Part
  | [] => []
  | v :: vs => ⟨v.encode, v.isDynamic⟩ :: Value.parts vs
end

/-- The encoding of a list of arguments. -/
def encodeArguments (vs : List Value) : List UInt8 := assemble (Value.parts vs)

end TokenLaunch.Abi
