import Mathlib.Algebra.Group.Nat.Defs
import Mathlib.Logic.Function.Basic
import TokenLaunch.Address
import TokenLaunch.Solidity.Contract

/-!
# Executing functions

What the statements of a function do to the state of a token: expressions are evaluated over the
declarations of the contract and the arguments of the function, conditions stop at the operand that
settles them, sums are checked, and a fault ends the execution.  The functions that a body calls
for their effect are a parameter, and every call of one is on record.
-/

namespace TokenLaunch.Solidity

abbrev Word := BitVec 256

/-- A value of an expression. -/
inductive Value where
  | bool (b : Bool)
  | word (w : Word)
  | account (a : Address)
  | text (s : String)
  /-- A role, by the text that it is the hash of. -/
  | role (name : String)
deriving DecidableEq, Repr

/-- Why an execution fails. -/
inductive Fault where
  /-- A requirement is not met. -/
  | reverted (message : String)
  /-- A sum does not fit a word. -/
  | overflow
  /-- What is executed has no meaning: a name that is not declared, or a value of a wrong type. -/
  | stuck
deriving DecidableEq, Repr

/-- What a token holds: its ledger, whether it is paused, and its variables by their names. -/
structure Token where
  paused : Bool
  supply : Word
  balance : Address → Word
  word : String → Word
  flag : String → Bool
  wordEntry : String → Address → Word
  flagEntry : String → Address → Bool

/-- What stays the same while a function is executed. -/
structure Frame where
  declarations : List Declaration
  /-- The parameters of the function and their values. -/
  args : List (String × Value)
  sender : Address
  timestamp : Word

namespace Frame

/-! ## Names -/

/-- The declaration of a name. -/
def declared? (f : Frame) (x : String) : Option Declaration :=
  f.declarations.find? (·.name = x)

/-- The value of a constant. -/
def literal : Expression → Except Fault Value
  | .number n => if n < 2 ^ 256 then .ok (.word (BitVec.ofNat 256 n)) else .error .stuck
  | .name x => if x = "true" then .ok (.bool true) else .error .stuck
  | .call "keccak256" [.text s] => .ok (.role s)
  | _ => .error .stuck

/-- The value of a declared variable or constant. -/
def variableOf (f : Frame) (t : Token) (x : String) : Except Fault Value :=
  match f.declared? x with
  | some (.variable _ _ true _ (some e)) => literal e
  | some (.variable (.plain .bool) _ false _ _) => .ok (.bool (t.flag x))
  | some (.variable (.plain (.uint 256)) _ false _ _) => .ok (.word (t.word x))
  | _ => .error .stuck

/-- A name is that of a parameter, of the language, of the role that every base with roles
declares, or of a variable, in this order. -/
def read (f : Frame) (t : Token) (x : String) : Except Fault Value :=
  match f.args.lookup x with
  | some v => .ok v
  | none =>
    if x = "true" then .ok (.bool true)
    else if x = "msg.sender" then .ok (.account f.sender)
    else if x = "block.timestamp" then .ok (.word f.timestamp)
    else if x = "DEFAULT_ADMIN_ROLE" then .ok (.role x)
    else f.variableOf t x

/-- What is no parameter has no value among the arguments. -/
theorem lookup_zip_of_notMem {x : String} {names : List String} {vs : List Value}
    (h : x ∉ names) : (names.zip vs).lookup x = none := by
  induction names generalizing vs with
  | nil => rfl
  | cons name names ih =>
    rw [List.mem_cons, not_or] at h
    cases vs with
    | nil => rfl
    | cons v vs =>
      rw [List.zip_cons_cons, List.lookup_cons, beq_eq_false_iff_ne.mpr h.1]
      exact ih h.2

/-- The names that stand for something else than a variable. -/
def reserved : List String := ["true", "msg.sender", "block.timestamp", "DEFAULT_ADMIN_ROLE"]

theorem read_eq_variableOf {f : Frame} {t : Token} {x : String} (hargs : f.args.lookup x = none)
    (hx : x ∉ reserved) : f.read t x = f.variableOf t x := by
  simp only [reserved, List.mem_cons, List.not_mem_nil, or_false, not_or] at hx
  simp [read, hargs, hx]

/-- The entry of a mapping. -/
def entryOf (f : Frame) (t : Token) (x : String) (key : Value) : Except Fault Value :=
  match f.declared? x, key with
  | some (.variable (.mapping .address .bool) _ _ _ _), .account a => .ok (.bool (t.flagEntry x a))
  | some (.variable (.mapping .address (.uint 256)) _ _ _ _), .account a =>
    .ok (.word (t.wordEntry x a))
  | _, _ => .error .stuck

/-- What the functions answer that change nothing. -/
def answer (f : Frame) (t : Token) (function : String) (args : List Value) : Except Fault Value :=
  match function, args with
  | "address", [.word w] => .ok (.account (w.setWidth 160))
  | "paused", [] => .ok (.bool t.paused)
  | "totalSupply", [] => .ok (.word t.supply)
  | "balanceOf", [.account a] => .ok (.word (t.balance a))
  | "_msgSender", [] => .ok (.account f.sender)
  | _, _ => .error .stuck

end Frame

/-! ## Expressions -/

namespace Expression

def truth (v : Except Fault Value) : Except Fault Bool :=
  match v with
  | .ok (.bool b) => .ok b
  | .ok _ => .error .stuck
  | .error e => .error e

/-- A connective of truth values: where the left one is `settled`, the right one is not asked. -/
def connect (settled : Bool) (left right : Except Fault Value) : Except Fault Value :=
  match truth left with
  | .ok b => if b = settled then .ok (.bool settled) else (truth right).map .bool
  | .error e => .error e

def sum (x y : Word) : Except Fault Value :=
  if x.toNat + y.toNat < 2 ^ 256 then .ok (.word (x + y)) else .error .overflow

/-- An operation on two values of the same type. -/
def operate (op : Operator) (left right : Value) : Except Fault Value :=
  match op, left, right with
  | .equal, .account a, .account b => .ok (.bool (a = b))
  | .equal, .word x, .word y => .ok (.bool (x = y))
  | .differs, .account a, .account b => .ok (.bool (a ≠ b))
  | .differs, .word x, .word y => .ok (.bool (x ≠ y))
  | .atMost, .word x, .word y => .ok (.bool (x ≤ y))
  | .atLeast, .word x, .word y => .ok (.bool (y ≤ x))
  | .plus, .word x, .word y => sum x y
  | _, _, _ => .error .stuck

/-- An operation on what two operands give, the left one first. -/
def combine (op : Operator) (left right : Except Fault Value) : Except Fault Value :=
  match left, right with
  | .ok v, .ok w => operate op v w
  | .error e, _ => .error e
  | .ok _, .error e => .error e

mutual
def eval (f : Frame) (t : Token) : Expression → Except Fault Value
  | name x => f.read t x
  | number n => Frame.literal (.number n)
  | text s => .ok (.text s)
  | call g args =>
    match evalAll f t args with
    | .ok vs => f.answer t g vs
    | .error e => .error e
  | entry mapping key =>
    match key.eval f t with
    | .ok v => f.entryOf t mapping v
    | .error e => .error e
  | not e => (truth (e.eval f t)).map fun b => .bool (!b)
  | binary .and left right => connect false (left.eval f t) (right.eval f t)
  | binary .or left right => connect true (left.eval f t) (right.eval f t)
  | binary op left right => combine op (left.eval f t) (right.eval f t)

def evalAll (f : Frame) (t : Token) : List Expression → Except Fault (List Value)
  | [] => .ok []
  | e :: es =>
    match e.eval f t, evalAll f t es with
    | .ok v, .ok vs => .ok (v :: vs)
    | .error e, _ => .error e
    | .ok _, .error e => .error e
end

theorem eval_binary {op : Operator} (hand : op ≠ .and) (hor : op ≠ .or) (f : Frame) (t : Token)
    (left right : Expression) :
    (binary op left right).eval f t = combine op (left.eval f t) (right.eval f t) := by
  rw [eval]
  · exact hand
  · exact hor

end Expression

/-! ## Statements -/

/-- A call of a function for its effect, and the state that it finds. -/
structure Call where
  function : String
  args : List Value
  found : Token

/-- How an execution ends. -/
inductive Ending where
  /-- The next statement follows. -/
  | goesOn (t : Token)
  /-- The function is left. -/
  | leaves (t : Token)
  | fails (e : Fault)

/-- An execution: the calls that it made, and its end. -/
structure Run where
  calls : List Call
  ending : Ending

/-- What the functions do that are called for their effect. -/
abbrev Callee := String → List Value → Token → Except Fault Token

namespace Run

/-- An execution without calls. -/
def quiet (ending : Ending) : Run := ⟨[], ending⟩

def andThen (r : Run) (next : Token → Run) : Run :=
  match r.ending with
  | .goesOn t => ⟨r.calls ++ (next t).calls, (next t).ending⟩
  | .leaves t => ⟨r.calls, .leaves t⟩
  | .fails e => ⟨r.calls, .fails e⟩

variable {r : Run} {next : Token → Run} {t : Token}

@[simp]
theorem andThen_goesOn : (quiet (.goesOn t)).andThen next = next t := rfl

@[simp]
theorem andThen_fails {e : Fault} : (quiet (.fails e)).andThen next = quiet (.fails e) := rfl

theorem andThen_stop : r.andThen (fun t => quiet (.goesOn t)) = r := by
  obtain ⟨calls, ending⟩ := r
  cases ending <;> simp [andThen, quiet]

theorem andThen_assoc (next' : Token → Run) :
    (r.andThen next).andThen next' = r.andThen fun t => (next t).andThen next' := by
  obtain ⟨calls, ending⟩ := r
  cases ending with
  | goesOn t =>
    simp only [andThen]
    cases (next t).ending <;> simp
  | leaves t => rfl
  | fails e => rfl

/-- What a function leaves behind. -/
def result (r : Run) : Except Fault Token :=
  match r.ending with
  | .goesOn t => .ok t
  | .leaves t => .ok t
  | .fails e => .error e

/-- What becomes of a value that a statement needs. -/
def needing {α : Type} (v : Except Fault α) (use : α → Run) : Run :=
  match v with
  | .ok a => use a
  | .error e => quiet (.fails e)

/-- A call for its effect. -/
def calling (callee : Callee) (g : String) (args : List Value) (t : Token) : Run :=
  ⟨[⟨g, args, t⟩],
    match callee g args t with
    | .ok t' => .goesOn t'
    | .error e => .fails e⟩

/-- What is called last decides what a function leaves behind. -/
theorem result_calling (callee : Callee) (g : String) (args : List Value) (t : Token) :
    (calling callee g args t).result = callee g args t := by
  unfold calling result
  cases callee g args t <;> rfl

/-- To leave a function behind a call changes nothing of the result. -/
theorem calls_calling_leaves (callee : Callee) (g : String) (args : List Value) (t : Token)
    (next : Token → Run) :
    (((calling callee g args t).andThen fun t' => quiet (.leaves t')).andThen next).calls =
        [⟨g, args, t⟩] ∧
      (((calling callee g args t).andThen fun t' => quiet (.leaves t')).andThen next).result =
        callee g args t := by
  unfold calling
  cases callee g args t <;> exact ⟨rfl, rfl⟩

@[simp]
theorem needing_ok {α : Type} {a : α} {use : α → Run} : needing (.ok a) use = use a := rfl

end Run

namespace Frame

/-- Gives a variable a new value of its type. -/
def store (f : Frame) (t : Token) (x : String) (v : Value) : Except Fault Token :=
  match f.declared? x, v with
  | some (.variable (.plain .bool) _ false _ _), .bool b =>
    .ok { t with flag := Function.update t.flag x b }
  | some (.variable (.plain (.uint 256)) _ false _ _), .word w =>
    .ok { t with word := Function.update t.word x w }
  | _, _ => .error .stuck

/-- Gives an entry of a mapping a new value. -/
def storeEntry (f : Frame) (t : Token) (x : String) (key v : Value) : Except Fault Token :=
  match f.declared? x, key, v with
  | some (.variable (.mapping .address .bool) _ _ _ _), .account a, .bool b =>
    .ok { t with flagEntry := Function.update t.flagEntry x
                  (Function.update (t.flagEntry x) a b) }
  | some (.variable (.mapping .address (.uint 256)) _ _ _ _), .account a, .word w =>
    .ok { t with wordEntry := Function.update t.wordEntry x
                  (Function.update (t.wordEntry x) a w) }
  | _, _, _ => .error .stuck

/-- Gives a place a new value; a parameter hides the variable of its name. -/
def assign (f : Frame) (t : Token) (target : Expression) (v : Value) : Except Fault Token :=
  match target with
  | .name x => if (f.args.lookup x).isSome then .error .stuck else f.store t x v
  | .entry x key =>
    match key.eval f t with
    | .ok k => f.storeEntry t x k v
    | .error e => .error e
  | _ => .error .stuck

end Frame

namespace Statement

open Run

mutual
def exec (callee : Callee) (f : Frame) (t : Token) : Statement → Run
  | eval (.call g args) => needing (Expression.evalAll f t args) fun vs => calling callee g vs t
  | eval _ => quiet (.fails .stuck)
  | assign target value =>
    needing (value.eval f t) fun v => needing (f.assign t target v) fun t' => quiet (.goesOn t')
  | emit _ args => needing (Expression.evalAll f t args) fun _ => quiet (.goesOn t)
  | require condition message =>
    needing (Expression.truth (condition.eval f t)) fun b =>
      quiet (if b then .goesOn t else .fails (.reverted message))
  | leave => quiet (.leaves t)
  | returnValue e => needing (e.eval f t) fun _ => quiet (.leaves t)
  | .when condition body =>
    needing (Expression.truth (condition.eval f t)) fun b =>
      if b then execAll callee f t body else quiet (.goesOn t)

def execAll (callee : Callee) (f : Frame) (t : Token) : List Statement → Run
  | [] => quiet (.goesOn t)
  | s :: ss => (s.exec callee f t).andThen fun t' => execAll callee f t' ss
end

variable {callee : Callee} {f : Frame} {t : Token}

theorem execAll_singleton (s : Statement) : execAll callee f t [s] = s.exec callee f t := by
  simp only [execAll]
  exact andThen_stop

theorem execAll_append (ss ss' : List Statement) : execAll callee f t (ss ++ ss') =
    (execAll callee f t ss).andThen fun t' => execAll callee f t' ss' := by
  induction ss generalizing t with
  | nil => simp [execAll]
  | cons s ss ih =>
    simp only [List.cons_append, execAll, ih]
    exact (andThen_assoc _).symm

end Statement

/-- Executes the body of a function. -/
def Function.invoke (f : Function) (callee : Callee) (declarations : List Declaration)
    (sender : Address) (timestamp : Word) (args : List Value) (t : Token) : Run :=
  Statement.execAll callee ⟨declarations, (f.params.map (·.name)).zip args, sender, timestamp⟩ t
    f.body

end TokenLaunch.Solidity
