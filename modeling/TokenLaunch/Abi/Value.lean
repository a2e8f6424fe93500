import TokenLaunch.Abi.Type
import TokenLaunch.Address

/-!
# Values of call data

Values, the types they have, and the types that accept them.
-/

namespace TokenLaunch.Abi

/-- A value of call data; numbers carry the size of their type in bits. -/
inductive Value where
  | bool (b : Bool)
  | int (n : Int) (bits : Nat)
  | uint (n : Nat) (bits : Nat)
  | fixedBytes (bytes : List UInt8)
  | address (a : Address)
  | bytes (bytes : List UInt8)
  | string (s : String)
  | array (items : List Value)
  | fixedArray (items : List Value)
  | tuple (items : List Value)
deriving Inhabited

mutual
/-- The name of the type of a value, as far as the value shows it: an empty array shows none, and
the items of an array are taken to be like the first. -/
def Value.typeName? : Value → Option String
  | .bool _ => some "bool"
  | .int _ bits => some ("int" ++ Text.decimal bits)
  | .uint _ bits => some ("uint" ++ Text.decimal bits)
  | .fixedBytes bs => some ("bytes" ++ Text.decimal bs.length)
  | .address _ => some "address"
  | .bytes _ => some "bytes"
  | .string _ => some "string"
  | .array items => (Value.firstTypeName? items).map (· ++ "[]")
  | .fixedArray items =>
    (Value.firstTypeName? items).map (· ++ "[" ++ Text.decimal items.length ++ "]")
  | .tuple items => (Value.typeNames? items).map tupleName

def Value.firstTypeName? : List Value → Option String
  | [] => none
  | v :: _ => v.typeName?

def Value.typeNames? : List Value → Option (List String)
  | [] => some []
  | v :: vs => do
    let name ← v.typeName?
    let names ← Value.typeNames? vs
    some (name :: names)
end

mutual
/-- Whether a type accepts a value; whether a number fits its bits is not asked. -/
def Ty.accepts : Ty → Value → Bool
  | .bool, .bool _ => true
  | .int bits, .int _ b => bits == b
  | .uint bits, .uint _ b => bits == b
  | .fixedBytes size, .fixedBytes bs => size == bs.length
  | .address, .address _ => true
  | .bytes, .bytes _ => true
  | .string, .string _ => true
  | .array item, .array vs => vs.all item.accepts
  | .fixedArray item size, .fixedArray vs => size == vs.length && vs.all item.accepts
  | .tuple items, .tuple vs => Ty.acceptsAll items vs
  | _, _ => false

def Ty.acceptsAll : List Ty → List Value → Bool
  | [], [] => true
  | t :: ts, v :: vs => t.accepts v && Ty.acceptsAll ts vs
  | _, _ => false
end

end TokenLaunch.Abi
