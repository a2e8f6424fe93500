import TokenLaunch.Text

/-!
# Source units

A contract source under construction: texts in ordered sections, which become one text at the end.
The order of additions counts only within a section.
-/

namespace TokenLaunch

/-- The sections of one contract source. -/
structure SourceUnit where
  name : String
  imports : List String
  bases : List String
  params : List String
  initializers : List String
  statements : List String
  state : List String
  functions : List String
deriving DecidableEq, Repr

namespace SourceUnit

def empty (name : String) : SourceUnit := ⟨name, [], [], [], [], [], [], []⟩

/-- Adds a text at the end, unless it is there already. -/
def addNew (xs : List String) (x : String) : List String := if x ∈ xs then xs else xs ++ [x]

/-! ## Additions -/

/-- One addition to a section. -/
inductive Addition where
  | path (path : String)
  | base (name : String)
  | param (text : String)
  | initializer (call : String)
  | statement (text : String)
  | state (block : String)
  | function (block : String)
deriving DecidableEq, Repr

/-- Imports and bases are taken once, all else as often as it is added. -/
def add (u : SourceUnit) : Addition → SourceUnit
  | .path x => { u with imports := addNew u.imports x }
  | .base x => { u with bases := addNew u.bases x }
  | .param x => { u with params := u.params ++ [x] }
  | .initializer x => { u with initializers := u.initializers ++ [x] }
  | .statement x => { u with statements := u.statements ++ [x] }
  | .state x => { u with state := u.state ++ [x] }
  | .function x => { u with functions := u.functions ++ [x] }

/-! ## The text -/

/-- Four blanks before a line that is not empty. -/
def indentLine (line : String) : String := if line.isEmpty then "" else "    " ++ line

/-- The lines of a block, each indented. -/
def indent (block : String) : String := "\n".intercalate ((Text.lines block).map indentLine)

def licenceLine : String := "// SPDX-License-Identifier: MIT\n"

def pragmaLine : String := "pragma solidity ^0.8.20;\n"

def importLine (path : String) : String := "import \"" ++ path ++ "\";\n"

/-- The line that opens the contract. -/
def contractLine (u : SourceUnit) : String :=
  "contract " ++ u.name
    ++ (if u.bases.isEmpty then "" else " is " ++ ", ".intercalate u.bases) ++ " \x7b\n"

def paramLines (params : List String) : String :=
  if params.isEmpty then ""
  else "\n" ++ ",\n".intercalate (params.map ("    " ++ ·)) ++ "\n"

/-- The block of the constructor. -/
def constructorBlock (u : SourceUnit) : String :=
  "constructor(" ++ paramLines u.params ++ ")"
    ++ String.join (u.initializers.map (" " ++ ·)) ++ " \x7b\n"
    ++ String.join (u.statements.map fun s => "    " ++ s ++ "\n") ++ "\x7d"

/-- State first, then the constructor, then the functions. -/
def sections (u : SourceUnit) : List String :=
  u.state ++ u.constructorBlock :: u.functions

/-- The whole text: sections stand inside the braces of the contract, with an empty line between
two of them. -/
def render (u : SourceUnit) : String :=
  licenceLine ++ pragmaLine ++ "\n" ++ String.join (u.imports.map importLine) ++ "\n"
    ++ u.contractLine ++ "\n\n".intercalate (u.sections.map indent) ++ "\n\x7d\n"

end SourceUnit

end TokenLaunch
