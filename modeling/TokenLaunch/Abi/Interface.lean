import TokenLaunch.Abi.Encoding
import TokenLaunch.Json.Decoder

/-!
# Contract interfaces

The JSON form of an interface, and the arguments of its constructor as call data.
-/

namespace TokenLaunch.Abi

open Json Json.Decoder

/-- A parameter: its name, its type as spelled, and what a tuple is made of. -/
inductive Param where
  | mk (name type : String) (components : List Param)
deriving Repr, Inhabited

namespace Param

def name : Param → String
  | mk name _ _ => name

def type : Param → String
  | mk _ type _ => type

def components : Param → List Param
  | mk _ _ components => components

/-- A name is empty or an identifier; the type of a parameter with components is a tuple or an
array of tuples, and any other is spelled as a type. -/
def isWellFormed : Param → Bool
  | mk name type components =>
    (name.isEmpty || isIdentifier name)
      && (if components.isEmpty then isSpelling type
          else "tuple".toList.isPrefixOf type.toList)

/-- What a parameter may hold. -/
def fields (component : Decoder Param) : List Field :=
  [.of "name" text, .of "type" text, .of "indexed" (optional bool),
    .of "internalType" (optional text), .of "components" (list component)]

/-- A parameter with at most `depth` tuples inside one another; only parameters of events may say
whether they are indexed. -/
def decoder (ofEvent : Bool) : Nat → Decoder Param
  | 0 => fun _ => .error .malformed
  | depth + 1 => fun r => do
    let component := decoder false depth
    let values ← record (fields component) r
    let name ← withDefault "name" text "" values
    let type ← required "type" text values
    let indexed ← withDefault "indexed" (optional bool) none values
    let components ← withDefault "components" (list component) [] values
    let p := mk name type components
    if (indexed.isNone ∨ ofEvent) ∧ p.isWellFormed then .ok p else .error .mismatch

mutual
/-- The type that a parameter stands for. -/
def resolve : Param → Except TypeFault Ty
  | mk _ type components => do
    let s ← Spelling.parse type
    if components.isEmpty then s.resolve
    else return s.wrap (.tuple (← resolveAll components))

def resolveAll : List Param → Except TypeFault (List Ty)
  | [] => .ok []
  | p :: ps => do
    let t ← p.resolve
    let ts ← resolveAll ps
    return t :: ts
end

end Param

/-! ## Items -/

/-- The parts of a contract that an interface lists; only the parameters of the constructor are
kept. -/
inductive Item where
  | constructor (inputs : List Param)
  | fallback
  | receive
  | function
  | event
  | error
deriving Repr

/-- The parameters of a constructor, and how many items there are in all. -/
structure Interface where
  constructor : Option (List Param)
  size : Nat
deriving Repr, Inhabited

namespace Item

/-- The kinds of items by their names. -/
inductive Kind where
  | constructor
  | fallback
  | receive
  | function
  | event
  | error
deriving DecidableEq, Repr

def Kind.ofName? : String → Option Kind
  | "constructor" => some constructor
  | "fallback" => some fallback
  | "receive" => some receive
  | "function" => some function
  | "event" => some event
  | "error" => some error
  | _ => none

/-- How an item may act on the state of the contract. -/
inductive Mutability where
  | pure
  | view
  | nonpayable
  | payable
deriving DecidableEq, Repr

def Mutability.ofName? : String → Option Mutability
  | "pure" => some pure
  | "view" => some view
  | "nonpayable" => some nonpayable
  | "payable" => some payable
  | _ => none

/-- A name, alone or as the only member of an object, with nothing in it. -/
def Mutability.decoder : Decoder Mutability
  | .str (some s) => mutabilityNamed s
  | .obj [(some s, .null)] => mutabilityNamed s
  | .obj [(some s, .obj [])] => mutabilityNamed s
  | _ => .error .mismatch
where
  mutabilityNamed (s : String) : Except Fault Mutability :=
    match ofName? s with
    | some m => .ok m
    | none => .error .mismatch

/-- No name, or an identifier. -/
def label : Decoder String :=
  textVia fun s => if s.isEmpty || isIdentifier s then some s else none

def params (ofEvent : Bool) : Decoder (List Param) := list (Param.decoder ofEvent maxDepth)

/-- The ways in which an item tells how it acts. -/
def mutabilityFields : List Field :=
  [.of "stateMutability" (optional Mutability.decoder), .of "payable" (optional bool),
    .of "constant" (optional bool)]

/-- An item does not say in the older way that it takes payments and changes nothing. -/
def checkMutability (values : List (String × Reading)) : Except Fault Unit := do
  let mutability ← withDefault "stateMutability" (optional Mutability.decoder) none values
  let payable ← withDefault "payable" (optional bool) none values
  let constant ← withDefault "constant" (optional bool) none values
  if mutability.isNone ∧ payable = some true ∧ constant = some true then .error .mismatch
  else .ok ()

namespace Kind

/-- What an item of each kind holds. -/
def fields : Kind → List Field
  | constructor => .of "inputs" (params false) :: mutabilityFields
  | fallback => mutabilityFields
  | receive => mutabilityFields
  | function =>
    .of "name" label :: .of "inputs" (params false) :: .of "outputs" (params false)
      :: mutabilityFields
  | event => [.of "name" label, .of "inputs" (params true), .of "anonymous" bool]
  | error => [.of "name" label, .of "inputs" (params false)]

/-- What is kept of the values of an item. -/
def keep (values : List (String × Reading)) : Kind → Except Fault Item
  | constructor => do
    checkMutability values
    return .constructor (← required "inputs" (params false) values)
  | fallback => (checkMutability values).map fun _ => .fallback
  | receive => (checkMutability values).map fun _ => .receive
  | function => do
    checkMutability values
    let _ ← required "name" label values
    let _ ← required "inputs" (params false) values
    let _ ← required "outputs" (params false) values
    return .function
  | event => do
    let _ ← required "name" label values
    let _ ← required "inputs" (params true) values
    let _ ← required "anonymous" bool values
    return .event
  | error => do
    let _ ← required "name" label values
    let _ ← required "inputs" (params false) values
    return .error

def decoder : Decoder Kind := textVia ofName?

/-- Whether an item of the kind may be written as a list. -/
def mayBeList : Kind → Bool
  | event | error => true
  | _ => false

/-- The item of a kind in a tree that is read as a whole, so that nothing of it is malformed. -/
def item (k : Kind) (r : Reading) : Except Fault Item :=
  match record k.fields r with
  | .ok values => (k.keep values).mapError fun _ => .mismatch
  | .error _ => .error .mismatch

end Kind

/-- The kind of an item, which is the one member named `type`; the values of the others are read
one after the other. -/
def kindOf (depth : Nat) (kind : Option Kind) :
    List (Option String × Reading) → Except Fault Kind
  | [] =>
    match kind with
    | some k => .ok k
    | none => .error .mismatch
  | (none, _) :: _ => .error .malformed
  | (some name, r) :: ms => do
    if name = "type" then
      if kind.isSome then .error .mismatch else kindOf depth (← Kind.decoder r) ms
    else
      let _ ← value depth r
      kindOf depth kind ms

/-- An item is read as a whole, with at most `depth` containers open at once, before its parts are
looked at.  It is an object, or a list that begins with the kind. -/
def decoder (depth : Nat) (r : Reading) : Except Fault Item :=
  match depth, r with
  | depth + 1, .obj members => do (← kindOf depth none members).item r
  | depth + 1, .arr (first :: rest) => do
    let kind ← Kind.decoder first
    let _ ← valueItems depth rest
    if kind.mayBeList then kind.item (.arr rest) else .error .mismatch
  | _ + 1, r => .error (wrongShape r)
  | 0, .obj _ => .error .malformed
  | 0, .arr _ => .error .malformed
  | 0, r => .error (wrongShape r)

/-- Whether a contract has at most one item of this kind, and the item is such a one. -/
def sameSingle : Item → Item → Bool
  | constructor _, constructor _ => true
  | fallback, fallback => true
  | receive, receive => true
  | _, _ => false

/-- Items in order, behind those that are already read; no constructor, fallback or receiver comes
twice. -/
def readAll (depth : Nat) (before : List Item) : List Reading → Except Fault (List Item)
  | [] => .ok before.reverse
  | r :: rs => do
    let i ← decoder depth r
    if before.any (sameSingle i) then .error .mismatch else readAll depth (i :: before) rs

def inputs? : Item → Option (List Param)
  | constructor inputs => some inputs
  | _ => none

end Item

namespace Interface

def ofItems (items : List Item) : Interface := ⟨items.findSome? Item.inputs?, items.length⟩

/-- The items of an interface that stands where `depth` containers may still be opened. -/
def decoder (depth : Nat) : Decoder Interface
  | .arr items => (Item.readAll (depth - 1) [] items).map ofItems
  | r => .error (wrongShape r)

def ofJson (j : Json) : Except Fault Interface := decoder maxDepth j.reading

/-! ## Arguments of the constructor -/

/-- Why values are no arguments of a constructor. -/
inductive ArgumentFault where
  | noConstructor (given : Nat)
  | wrongCount (expected given : Nat)
  | badType (fault : TypeFault)
  | wrongType (expected : Ty) (given : Value)

def ArgumentFault.message : ArgumentFault → String
  | noConstructor given =>
    "ABI has no constructor but " ++ Text.decimal given ++ " arguments were given"
  | wrongCount expected given =>
    "encode length mismatch: expected " ++ Text.decimal expected ++ " types, got "
      ++ Text.decimal given
  | badType fault => fault.message
  | wrongType expected given =>
    "type mismatch: expected type \"" ++ expected.name ++ "\", got value with type \""
      ++ given.typeName?.getD "<none>" ++ "\""

/-- Checks values against parameters, one after the other. -/
def checkArguments : List Param → List Value → Except ArgumentFault Unit
  | p :: ps, v :: vs =>
    match p.resolve with
    | .error fault => .error (.badType fault)
    | .ok t => if t.accepts v then checkArguments ps vs else .error (.wrongType t v)
  | _, _ => .ok ()

/-- The arguments of the constructor as call data, in hexadecimal digits without a mark; no
constructor takes no arguments. -/
def encodeArguments (i : Interface) (vs : List Value) : Except ArgumentFault String :=
  match i.constructor with
  | none => if vs.isEmpty then .ok "" else .error (.noConstructor vs.length)
  | some ps =>
    if ps.length = vs.length then do
      checkArguments ps vs
      return Hex.encode (Abi.encodeArguments vs)
    else .error (.wrongCount ps.length vs.length)

end Interface

end TokenLaunch.Abi
