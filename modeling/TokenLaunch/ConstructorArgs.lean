import TokenLaunch.Abi.Encoding
import TokenLaunch.TokenConfig

/-!
# Arguments of the constructor

What a launch passes to the constructor of the token that it generates.
-/

namespace TokenLaunch

structure ConstructorArgs where
  name : String
  symbol : String
  /-- In base units. -/
  initialSupply : Nat
  decimals : Nat
  /-- There for tokens that a manager governs. -/
  authority : Option Address
deriving DecidableEq, Repr

namespace ConstructorArgs

def ofConfig (c : TokenConfig) : ConstructorArgs where
  name := c.tokenName
  symbol := c.tokenSymbol
  initialSupply := c.initialSupply.baseUnits
  decimals := c.decimals
  authority := c.accessManager

/-- The values in the order of the parameters. -/
def values (a : ConstructorArgs) : List Abi.Value :=
  [.string a.name, .string a.symbol, .uint a.initialSupply 256, .uint a.decimals 8]
    ++ a.authority.toList.map .address

end ConstructorArgs

end TokenLaunch
