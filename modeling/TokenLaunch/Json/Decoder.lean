import TokenLaunch.Json.Reading

/-!
# Values of a wanted shape

Decoders walk the tree of a text in the order of the text and stop at the first fault: a place
where the text stops being JSON, or a value of another shape than the wanted one.
-/

namespace TokenLaunch.Json

inductive Fault where
  /-- The text is not JSON. -/
  | malformed
  /-- The text is JSON of another shape. -/
  | mismatch
deriving DecidableEq, Repr

/-- The words for a fault in messages; they do not tell one from another. -/
def Fault.message (_ : Fault) : String := "<json error>"

abbrev Decoder (α : Type) := Reading → Except Fault α

/-! ## Numbers -/

/-- The number that a numeral denotes: an integer of one word when it is written as one and fits,
else a floating-point number; none when it is too large for that. -/
def Numeral.number? (n : Numeral) : Option Number :=
  let float : Option Number :=
    (Binary64.ofDecimal n.whole (n.fraction.getD []) (n.exponent.getD 0)).map fun x =>
      .float { x with negative := n.negative }
  if n.fraction.isNone ∧ n.exponent.isNone then
    let v := ofDigits n.whole
    if n.negative then
      if v = 0 then some (.float Binary64.zero.neg)
      else if v ≤ twoTo 63 then some (.negative v) else float
    else if v < twoTo 64 then some (.natural v) else float
  else float

namespace Decoder

/-- The fault of a value that has another shape than the wanted one: what opens a container is
enough to see it, a number or a text has to be read first. -/
def wrongShape : Reading → Fault
  | .broken => .malformed
  | .str none => .malformed
  | .num n => if n.number?.isSome then .mismatch else .malformed
  | _ => .mismatch

/-- A natural number below a bound. -/
def natBelow (bound : Nat) : Decoder Nat
  | .num n =>
    match n.number? with
    | none => .error .malformed
    | some (.natural v) => if v < bound then .ok v else .error .mismatch
    | some _ => .error .mismatch
  | r => .error (wrongShape r)

def bool : Decoder Bool
  | .bool b => .ok b
  | r => .error (wrongShape r)

def text : Decoder String
  | .str (some s) => .ok s
  | r => .error (wrongShape r)

/-- A text that stands for something. -/
def textVia {α : Type} (f : String → Option α) : Decoder α := fun r => do
  let s ← text r
  match f s with
  | some a => .ok a
  | none => .error .mismatch

/-- Null stands for no value. -/
def optional {α : Type} (d : Decoder α) : Decoder (Option α)
  | .null => .ok none
  | r => (d r).map some

def list {α : Type} (d : Decoder α) : Decoder (List α)
  | .arr items => items.mapM d
  | r => .error (wrongShape r)

/-- One of a list of names, alone or as the only member of an object whose value is null. -/
def oneOf {α : Type} (f : String → Option α) : Decoder α
  | .str (some s) =>
    match f s with
    | some a => .ok a
    | none => .error .mismatch
  | .obj ((some s, r) :: more) =>
    match f s with
    | none => .error .mismatch
    | some a =>
      match r with
      | .null => if more.isEmpty then .ok a else .error .malformed
      | r => .error (wrongShape r)
  | .obj [] => .error .malformed
  | _ => .error .malformed

/-- The members of an object, in order, under keys that their names stand for. -/
def pairs {κ α : Type} (key? : String → Option κ) (d : Decoder α) :
    List (Option String × Reading) → Except Fault (List (κ × α))
  | [] => .ok []
  | (none, _) :: _ => .error .malformed
  | (some name, r) :: ms =>
    match key? name with
    | none => .error .mismatch
    | some k => do
      let a ← d r
      let rest ← pairs key? d ms
      return (k, a) :: rest

/-- An object whose members all have names that stand for keys. -/
def dictionary {κ α : Type} (key? : String → Option κ) (d : Decoder α) : Decoder (List (κ × α))
  | .obj members => pairs key? d members
  | r => .error (wrongShape r)

/-! ## Whole values -/

mutual
/-- Passes over a value that nobody wants: only its grammar counts. -/
def skip : Reading → Except Fault Unit
  | .broken => .error .malformed
  | .arr items => skipItems items
  | .obj members => skipMembers members
  | _ => .ok ()

def skipItems : List Reading → Except Fault Unit
  | [] => .ok ()
  | r :: rs => do
    skip r
    skipItems rs

def skipMembers : List (Option String × Reading) → Except Fault Unit
  | [] => .ok ()
  | m :: ms => do
    skip m.2
    skipMembers ms
end

/-- Puts a member at its place among members sorted by name; the last of a name stays. -/
def insertMember (name : String) (v : Json) : List (String × Json) → List (String × Json)
  | [] => [(name, v)]
  | m :: ms =>
    if name = m.1 then (name, v) :: ms
    else if name < m.1 then (name, v) :: m :: ms
    else m :: insertMember name v ms

mutual
/-- Any value, with at most `depth` containers open at once; members are sorted by name and of two
of the same name the last stays. -/
def value (depth : Nat) : Reading → Except Fault Json
  | .null => .ok .null
  | .bool b => .ok (.bool b)
  | .num n =>
    match n.number? with
    | some v => .ok (.num v)
    | none => .error .malformed
  | .str (some s) => .ok (.str s)
  | .str none => .error .malformed
  | .arr items =>
    match depth with
    | 0 => .error .malformed
    | depth + 1 => (valueItems depth items).map .arr
  | .obj members =>
    match depth with
    | 0 => .error .malformed
    | depth + 1 => (valueMembers depth members []).map .obj
  | .broken => .error .malformed

def valueItems (depth : Nat) : List Reading → Except Fault (List Json)
  | [] => .ok []
  | r :: rs => do
    let v ← value depth r
    let vs ← valueItems depth rs
    return v :: vs

def valueMembers (depth : Nat) :
    List (Option String × Reading) → List (String × Json) → Except Fault (List (String × Json))
  | [], acc => .ok acc
  | m :: ms, acc =>
    match m.1 with
    | none => .error .malformed
    | some name => do
      let v ← value depth m.2
      valueMembers depth ms (insertMember name v acc)
end

/-- The most containers that may be open at once. -/
def maxDepth : Nat := 127

/-! ## Records -/

/-- What a record holds under one name. -/
structure Field where
  name : String
  /-- The shape of its value. -/
  check : Reading → Except Fault Unit

def Field.of {α : Type} (name : String) (d : Decoder α) : Field :=
  ⟨name, fun r => (d r).map fun _ => ()⟩

/-- The members of a record written as an object, or as the list of its values in order; values
beyond the last field are no part of it. -/
def members? (fields : List Field) : Reading → Except Fault (List (Option String × Reading))
  | .obj members => .ok members
  | .arr items =>
    let known := (fields.map fun f => some f.name).zip items
    .ok (if items.length ≤ fields.length then known else known ++ [(none, .broken)])
  | r => .error (wrongShape r)

/-- Reads the members in order: a name that no field has is passed over, a field that comes twice
is a fault.  The values of the fields that are there are kept. -/
def fieldValues (fields : List Field) :
    List (Option String × Reading) → List (String × Reading) →
      Except Fault (List (String × Reading))
  | [], seen => .ok seen
  | (none, _) :: _, _ => .error .malformed
  | (some name, r) :: ms, seen =>
    match fields.find? (·.name == name) with
    | none => do
      skip r
      fieldValues fields ms seen
    | some f =>
      if (seen.lookup name).isSome then .error .mismatch
      else do
        f.check r
        fieldValues fields ms ((name, r) :: seen)

/-- The values of the fields of a record. -/
def record (fields : List Field) : Decoder (List (String × Reading)) := fun r => do
  fieldValues fields (← members? fields r) []

/-- The value of a field that has to be there. -/
def required {α : Type} (name : String) (d : Decoder α) (values : List (String × Reading)) :
    Except Fault α :=
  match values.lookup name with
  | some r => d r
  | none => .error .mismatch

/-- The value of a field that has a default. -/
def withDefault {α : Type} (name : String) (d : Decoder α) (default : α)
    (values : List (String × Reading)) : Except Fault α :=
  match values.lookup name with
  | some r => d r
  | none => .ok default

/-! ## Texts -/

/-- The value that a whole text holds. -/
def run {α : Type} (d : Decoder α) (s : String) : Except Fault α := do
  let doc := Document.ofText s
  let a ← d doc.root
  if doc.trailing then .error .malformed else .ok a

end Decoder

/-- Any value that a whole text holds. -/
def ofText (s : String) : Except Fault Json := Decoder.run (Decoder.value Decoder.maxDepth) s

mutual
/-- The tree of a value. -/
def reading : Json → Reading
  | .null => .null
  | .bool b => .bool b
  | .num (.natural n) => .num ⟨false, (Nat.toDigits 10 n).map Text.digitValue, none, none⟩
  | .num (.negative n) => .num ⟨true, (Nat.toDigits 10 n).map Text.digitValue, none, none⟩
  | .num (.float x) =>
    .num ⟨x.negative, (Nat.toDigits 10 x.shortest.1).map Text.digitValue, none, some x.shortest.2⟩
  | .str s => .str (some s)
  | .arr items => .arr (readingItems items)
  | .obj members => .obj (readingMembers members)

def readingItems : List Json → List Reading
  | [] => []
  | v :: vs => v.reading :: readingItems vs

def readingMembers : List (String × Json) → List (Option String × Reading)
  | [] => []
  | m :: ms => (some m.1, m.2.reading) :: readingMembers ms
end

end TokenLaunch.Json
