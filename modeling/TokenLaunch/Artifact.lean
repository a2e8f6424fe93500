import TokenLaunch.Abi.Interface

/-!
# Compiled artifacts

What a compiler makes of a source: the interface of the contract and its creation code.
-/

namespace TokenLaunch

structure Artifact where
  abi : Abi.Interface
  /-- Hexadecimal digits, with or without marks before them. -/
  bytecode : String
deriving Repr

namespace Artifact

open Json Json.Decoder

/-- Bytes of creation code: half the bytes of its text after every leading mark, rounded down. -/
def size (a : Artifact) : Nat :=
  (String.ofList (Hex.dropMarks a.bytecode.toList)).utf8ByteSize / 2

/-- Nothing stands after the marks. -/
def isEmpty (a : Artifact) : Bool := (Hex.dropMarks a.bytecode.toList).isEmpty

/-- The interface stands inside the object of the artifact. -/
def interface : Decoder Abi.Interface := Abi.Interface.decoder (maxDepth - 1)

def fields : List Field := [.of "abi" interface, .of "bytecode" text]

def decoder : Decoder Artifact := fun r => do
  let values ← record fields r
  let abi ← required "abi" interface values
  let bytecode ← required "bytecode" text values
  return { abi, bytecode }

def ofText (s : String) : Except Fault Artifact := Decoder.run decoder s

end Artifact

end TokenLaunch
