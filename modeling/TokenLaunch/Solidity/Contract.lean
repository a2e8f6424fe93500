import TokenLaunch.Abi.Type
import TokenLaunch.Solidity.Statement
import TokenLaunch.SourceUnit

/-!
# Contracts

Declarations, functions and whole contracts, and the source units that they make.
-/

namespace TokenLaunch.Solidity

/-! ## Parameters -/

/-- A parameter of a function; one that is not used has no name. -/
structure Parameter where
  type : Abi.Ty
  name : String
deriving Repr

/-- Values of these types live in memory. -/
def needsMemory : Abi.Ty → Bool
  | .string | .bytes | .array _ | .fixedArray _ _ | .tuple _ => true
  | _ => false

def Parameter.render (p : Parameter) : String :=
  p.type.name ++ (if needsMemory p.type then " memory" else "")
    ++ (if p.name.isEmpty then "" else " " ++ p.name)

/-! ## State -/

inductive StateType where
  | plain (type : Abi.Ty)
  | mapping (key value : Abi.Ty)
deriving Repr

def StateType.render : StateType → String
  | plain type => type.name
  | mapping key value => "mapping(" ++ key.name ++ " => " ++ value.name ++ ")"

inductive Declaration where
  /-- A variable, or a constant, with its first value if it has one. -/
  | variable (type : StateType) (isPublic isConstant : Bool) (name : String)
      (value : Option Expression)
  /-- An event; each parameter may be indexed. -/
  | event (name : String) (params : List (Parameter × Bool))
deriving Repr

namespace Declaration

def name : Declaration → String
  | «variable» _ _ _ name _ => name
  | event name _ => name

def renderEventParameter (p : Parameter × Bool) : String :=
  p.1.type.name ++ (if p.2 then " indexed" else "") ++ " " ++ p.1.name

def render : Declaration → String
  | «variable» type isPublic isConstant name value =>
    type.render ++ (if isPublic then " public" else " private")
      ++ (if isConstant then " constant" else "") ++ " " ++ name
      ++ (match value with
          | some e => " = " ++ e.render
          | none => "")
      ++ ";"
  | event name params =>
    "event " ++ name ++ "(" ++ ", ".intercalate (params.map renderEventParameter) ++ ");"

end Declaration

/-- Declarations that belong together, in paragraphs. -/
abbrev StateBlock := List (List Declaration)

def StateBlock.render (b : StateBlock) : String :=
  "\n\n".intercalate (b.map fun ds => "\n".intercalate (ds.map Declaration.render))

/-! ## Functions -/

inductive Visibility where
  | isPublic
  | isExternal
  | isInternal
deriving DecidableEq, Repr

def Visibility.render : Visibility → String
  | isPublic => "public"
  | isExternal => "external"
  | isInternal => "internal"

/-- What a function that changes nothing may look at. -/
inductive Purity where
  | isView
  | isPure
deriving DecidableEq, Repr

def Purity.render : Purity → String
  | isView => "view"
  | isPure => "pure"

/-- Who may call a function. -/
inductive Guard where
  | onlyOwner
  | onlyRole (role : String)
  | restricted
deriving DecidableEq, Repr

def Guard.render : Guard → String
  | onlyOwner => "onlyOwner"
  | onlyRole role => "onlyRole(" ++ role ++ ")"
  | restricted => "restricted"

structure Function where
  name : String
  params : List Parameter
  visibility : Visibility
  purity : Option Purity
  guard : Option Guard
  /-- The bases whose function this one replaces; with a single base none is named. -/
  overrides : Option (List String)
  returns : Option Abi.Ty
  body : List Statement
deriving Repr

namespace Function

def overrideText (bases : List String) : String :=
  if bases.isEmpty then "override" else "override(" ++ ", ".intercalate bases ++ ")"

/-- The words between the parameters and the body. -/
def qualifiers (f : Function) : List String :=
  f.visibility.render :: f.purity.toList.map Purity.render ++ f.guard.toList.map Guard.render
    ++ f.overrides.toList.map overrideText
    ++ f.returns.toList.map fun t => "returns (" ++ t.name ++ ")"

def headLine (f : Function) : String :=
  "function " ++ f.name ++ "(" ++ ", ".intercalate (f.params.map Parameter.render) ++ ") "
    ++ " ".intercalate f.qualifiers ++ " \x7b"

def lines (f : Function) : List String :=
  f.headLine :: Statement.deeper (Statement.bodyLines f.body) ++ ["\x7d"]

def render (f : Function) : String := "\n".intercalate f.lines

end Function

/-! ## Contracts -/

/-- A call of the constructor of a base. -/
structure Initializer where
  base : String
  args : List Expression
deriving Repr

def Initializer.render (i : Initializer) : String := (Expression.call i.base i.args).render

structure Contract where
  name : String
  imports : List String
  bases : List String
  params : List Parameter
  initializers : List Initializer
  statements : List Statement
  state : List StateBlock
  functions : List Function
deriving Repr

/-- The source unit of a contract. -/
def Contract.toSourceUnit (c : Contract) : SourceUnit where
  name := c.name
  imports := c.imports
  bases := c.bases
  params := c.params.map Parameter.render
  initializers := c.initializers.map Initializer.render
  statements := c.statements.map Statement.render
  state := c.state.map StateBlock.render
  functions := c.functions.map Function.render

end TokenLaunch.Solidity
