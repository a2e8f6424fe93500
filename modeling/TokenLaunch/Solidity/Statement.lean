import TokenLaunch.Text

/-!
# Statements

Expressions and statements of function bodies, and their lines.
-/

namespace TokenLaunch.Solidity

inductive Operator where
  | or
  | and
  | equal
  | differs
  | atMost
  | atLeast
  | plus
deriving DecidableEq, Repr

def Operator.text : Operator → String
  | or => "||"
  | and => "&&"
  | equal => "=="
  | differs => "!="
  | atMost => "<="
  | atLeast => ">="
  | plus => "+"

/-- How tightly an operator binds. -/
def Operator.level : Operator → Nat
  | or => 1
  | and => 2
  | equal | differs => 3
  | atMost | atLeast => 4
  | plus => 5

inductive Expression where
  | name (x : String)
  | number (n : Nat)
  | text (s : String)
  | call (f : String) (args : List Expression)
  /-- An entry of a mapping. -/
  | entry (mapping : String) (key : Expression)
  | not (e : Expression)
  | binary (op : Operator) (left right : Expression)
deriving Repr, Inhabited

namespace Expression

def level : Expression → Nat
  | binary op _ _ => op.level
  | not _ => 6
  | _ => 7

def bracketed (needed : Bool) (s : String) : String := if needed then "(" ++ s ++ ")" else s

mutual
/-- The text of an expression, with brackets only where they are needed. -/
def render : Expression → String
  | name x => x
  | number n => Text.decimal n
  | text s => "\"" ++ s ++ "\""
  | call f args => f ++ "(" ++ ", ".intercalate (renderAll args) ++ ")"
  | entry mapping key => mapping ++ "[" ++ key.render ++ "]"
  | not e => "!" ++ bracketed (e.level < 6) e.render
  | binary op left right =>
    bracketed (left.level < op.level) left.render ++ " " ++ op.text ++ " "
      ++ bracketed (right.level ≤ op.level) right.render

def renderAll : List Expression → List String
  | [] => []
  | e :: es => e.render :: renderAll es
end

end Expression

inductive Statement where
  | eval (e : Expression)
  | assign (target value : Expression)
  | emit (event : String) (args : List Expression)
  | require (condition : Expression) (message : String)
  | leave
  | returnValue (e : Expression)
  | when (condition : Expression) (body : List Statement)
deriving Repr, Inhabited

namespace Statement

def deeper (lines : List String) : List String := lines.map ("    " ++ ·)

mutual
/-- The lines of a statement; the body of a condition stands deeper. -/
def lines : Statement → List String
  | eval e => [e.render ++ ";"]
  | assign target value => [target.render ++ " = " ++ value.render ++ ";"]
  | emit event args => ["emit " ++ (Expression.call event args).render ++ ";"]
  | require condition message =>
    ["require(" ++ condition.render ++ ", \"" ++ message ++ "\");"]
  | leave => ["return;"]
  | returnValue e => ["return " ++ e.render ++ ";"]
  | when condition body =>
    ("if (" ++ condition.render ++ ") \x7b") :: deeper (bodyLines body) ++ ["\x7d"]

def bodyLines : List Statement → List String
  | [] => []
  | s :: ss => s.lines ++ bodyLines ss
end

/-- The lines of a statement as one text. -/
def render (s : Statement) : String := "\n".intercalate s.lines

end Statement

end TokenLaunch.Solidity
