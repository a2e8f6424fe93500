import TokenLaunch.Solidity.Contract
import TokenLaunch.TokenConfig

/-!
# Synthesis

The contract of a configuration: its bases, its guarded functions, and the one hook through which
every transfer goes.
-/

namespace TokenLaunch.Synthesis

open Solidity Solidity.Expression

/-! ## Bases -/

/-- The library contracts that a token builds on. -/
inductive Base where
  | erc20
  | ownable
  | accessControl
  | accessManaged
  | burnable
  | pausable
  | capped
deriving DecidableEq, Repr

namespace Base

def name : Base → String
  | erc20 => "ERC20"
  | ownable => "Ownable"
  | accessControl => "AccessControl"
  | accessManaged => "AccessManaged"
  | burnable => "ERC20Burnable"
  | pausable => "Pausable"
  | capped => "ERC20Capped"

/-- Where the library keeps the base. -/
def folder : Base → String
  | erc20 => "token/ERC20/"
  | ownable => "access/"
  | accessControl => "access/"
  | accessManaged => "access/manager/"
  | burnable => "token/ERC20/extensions/"
  | pausable => "utils/"
  | capped => "token/ERC20/extensions/"

end Base

def importPath (folder name : String) : String :=
  "@openzeppelin/contracts/" ++ folder ++ name ++ ".sol"

def Base.importPath (b : Base) : String := Synthesis.importPath b.folder b.name

/-- The import that guards need although it is no base. -/
def contextPath : String := importPath "utils/" "Context"

def accessBase : AccessControl → Option Base
  | .none => none
  | .ownable => some .ownable
  | .roles => some .accessControl
  | .manager => some .accessManaged

/-- The bases of a token in the order in which it inherits them. -/
def bases (c : TokenConfig) : List Base :=
  .erc20 :: (accessBase c.accessControl).toList
    ++ (if c.has .burn then [.burnable] else [])
    ++ (if c.has .pause then [.pausable] else [])
    ++ (if c.maxSupply.isSome then [.capped] else [])

def imports (c : TokenConfig) : List String :=
  (bases c).map Base.importPath ++ (if c.isGuarded then [contextPath] else [])

/-! ## Guards and roles -/

def minterRole : String := "MINTER_ROLE"

def pauserRole : String := "PAUSER_ROLE"

def adminRole : String := "DEFAULT_ADMIN_ROLE"

/-- The guard of a privileged function; without access control there is none, and no such function
either. -/
def guard (access : AccessControl) (role : String) : Option Guard :=
  match access with
  | .none => none
  | .ownable => some .onlyOwner
  | .roles => some (.onlyRole role)
  | .manager => some .restricted

/-- The roles that a token declares besides that of the administrator. -/
def roles (c : TokenConfig) : List String :=
  if c.accessControl = .roles then
    (if c.has .mint then [minterRole] else []) ++ (if c.has .pause then [pauserRole] else [])
  else []

/-! ## State -/

def mappingOf (value : Abi.Ty) : StateType := .mapping .address value

def enabledFlag (name : String) : Declaration :=
  .variable (.plain .bool) false true name (some (.name "true"))

def wordVariable (name : String) (value : Nat) : Declaration :=
  .variable (.plain (.uint 256)) true false name (some (.number value))

def privateMapping (name : String) (value : Abi.Ty) : Declaration :=
  .variable (mappingOf value) false false name none

def roleConstant (role : String) : StateBlock :=
  [[.variable (.plain (.fixedBytes 32)) true true role (some (.call "keccak256" [.text role]))]]

def antiWhaleState (w : AntiWhale) : StateBlock :=
  [[enabledFlag "ANTI_WHALE_ENABLED",
    wordVariable "maxTransactionAmount" w.maxTransactionAmount.baseUnits,
    wordVariable "maxHolderLimit" w.maxHolderLimit.baseUnits]]

def antiBotState (cooldown : Nat) : StateBlock :=
  [[enabledFlag "ANTI_BOT_ENABLED", wordVariable "tradingCooldown" cooldown,
    privateMapping "_lastTradeTime" (.uint 256)]]

def blacklistState : StateBlock :=
  [[privateMapping "_blacklisted" .bool],
    [.event "BlacklistUpdated" [(⟨.address, "account"⟩, true), (⟨.bool, "blacklisted"⟩, false)]]]

def allowlistState : StateBlock :=
  [[privateMapping "_allowlisted" .bool,
    .variable (.plain .bool) true false "allowlistEnabled" (some (.name "true"))],
    [.event "AllowlistUpdated" [(⟨.address, "account"⟩, true), (⟨.bool, "allowed"⟩, false)],
      .event "AllowlistStatusChanged" [(⟨.bool, "enabled"⟩, false)]]]

def state (c : TokenConfig) : List StateBlock :=
  (roles c).map roleConstant ++ c.antiWhale.toList.map antiWhaleState
    ++ c.tradingCooldown.toList.map antiBotState
    ++ (if c.hasSecurity .blacklist then [blacklistState] else [])
    ++ (if c.hasSecurity .allowlist then [allowlistState] else [])

/-! ## Construction -/

def sender : Expression := .name "msg.sender"

def mintTo (receiver amount : Expression) : Statement :=
  .eval (.call "_mint" [receiver, amount])

/-- Decimals are a parameter without a name: the value stands in the source. -/
def params (c : TokenConfig) : List Parameter :=
  [⟨.string, "name_"⟩, ⟨.string, "symbol_"⟩, ⟨.uint 256, "initialSupply"⟩, ⟨.uint 8, ""⟩]
    ++ (if c.accessControl = .manager then [⟨.address, "initialAuthority"⟩] else [])

def accessInitializer : AccessControl → List Initializer
  | .ownable => [⟨Base.ownable.name, [sender]⟩]
  | .manager => [⟨Base.accessManaged.name, [.name "initialAuthority"]⟩]
  | _ => []

def initializers (c : TokenConfig) : List Initializer :=
  ⟨Base.erc20.name, [.name "name_", .name "symbol_"]⟩ :: accessInitializer c.accessControl
    ++ c.maxSupply.toList.map fun cap => ⟨Base.capped.name, [.number cap.baseUnits]⟩

def grant (role : String) : Statement := .eval (.call "_grantRole" [.name role, sender])

/-- The initial supply is minted before any role is granted. -/
def statements (c : TokenConfig) : List Statement :=
  mintTo sender (.name "initialSupply")
    :: (if c.accessControl = .roles then (adminRole :: roles c).map grant else [])
    ++ (if c.hasSecurity .allowlist then
          [.assign (.entry "_allowlisted" (.call "_msgSender" [])) (.name "true")]
        else [])

/-! ## Functions -/

/-- A function that changes the state, open to those whom the guard lets in. -/
def privileged (name : String) (visibility : Visibility) (guard : Guard)
    (params : List Parameter) (body : List Statement) : Function :=
  { name, params, visibility, purity := none, guard := some guard, overrides := none,
    returns := none, body }

/-- A function that answers a question. -/
def query (name : String) (params : List Parameter) (returns : Abi.Ty) (e : Expression) :
    Function :=
  { name, params, visibility := .isPublic, purity := some .isView, guard := none,
    overrides := none, returns := some returns, body := [.returnValue e] }

/-- Eighteen decimals are what the base has. -/
def decimalsFunction (c : TokenConfig) : List Function :=
  if c.decimals = 18 then []
  else
    [{ name := "decimals", params := [], visibility := .isPublic, purity := some .isPure,
       guard := none, overrides := some [], returns := some (.uint 8),
       body := [.returnValue (.number c.decimals)] }]

def mintFunction (g : Guard) : Function :=
  privileged "mint" .isPublic g [⟨.address, "to"⟩, ⟨.uint 256, "amount"⟩]
    [mintTo (.name "to") (.name "amount")]

def pauseFunctions (g : Guard) : List Function :=
  [privileged "pause" .isPublic g [] [.eval (.call "_pause" [])],
    privileged "unpause" .isPublic g [] [.eval (.call "_unpause" [])]]

def mintFunctions (c : TokenConfig) : List Function :=
  if c.has .mint then (guard c.accessControl minterRole).toList.map mintFunction else []

def pausing (c : TokenConfig) : List Function :=
  if c.has .pause then (guard c.accessControl pauserRole).toList.flatMap pauseFunctions else []

def set (target value : String) : Statement := .assign (.name target) (.name value)

/-- Changes the entry of an account and tells of it. -/
def setEntry (mapping event value : String) : List Statement :=
  [.assign (.entry mapping (.name "account")) (.name value),
    .emit event [.name "account", .name value]]

def setAntiWhaleLimits (g : Guard) : Function :=
  privileged "setAntiWhaleLimits" .isExternal g
    [⟨.uint 256, "newMaxTransactionAmount"⟩, ⟨.uint 256, "newMaxHolderLimit"⟩]
    [set "maxTransactionAmount" "newMaxTransactionAmount",
      set "maxHolderLimit" "newMaxHolderLimit"]

def setTradingCooldown (g : Guard) : Function :=
  privileged "setTradingCooldown" .isExternal g [⟨.uint 256, "newCooldown"⟩]
    [set "tradingCooldown" "newCooldown"]

def setBlacklisted (g : Guard) : Function :=
  privileged "setBlacklisted" .isExternal g [⟨.address, "account"⟩, ⟨.bool, "blacklisted"⟩]
    (setEntry "_blacklisted" "BlacklistUpdated" "blacklisted")

def isBlacklisted : Function :=
  query "isBlacklisted" [⟨.address, "account"⟩] .bool (.entry "_blacklisted" (.name "account"))

def setAllowlisted (g : Guard) : Function :=
  privileged "setAllowlisted" .isExternal g [⟨.address, "account"⟩, ⟨.bool, "allowed"⟩]
    (setEntry "_allowlisted" "AllowlistUpdated" "allowed")

def setAllowlistEnabled (g : Guard) : Function :=
  privileged "setAllowlistEnabled" .isExternal g [⟨.bool, "enabled"⟩]
    [set "allowlistEnabled" "enabled", .emit "AllowlistStatusChanged" [.name "enabled"]]

def isAllowlisted : Function :=
  query "isAllowlisted" [⟨.address, "account"⟩] .bool (.entry "_allowlisted" (.name "account"))

/-- The functions of the guards on transfers: setters where somebody may call them, and the
questions that anybody may ask. -/
def securityFunctions (c : TokenConfig) : List Function :=
  let admin := (guard c.accessControl adminRole).toList
  (if c.antiWhale.isSome then admin.map setAntiWhaleLimits else [])
    ++ (if c.tradingCooldown.isSome then admin.map setTradingCooldown else [])
    ++ (if c.hasSecurity .blacklist then admin.map setBlacklisted ++ [isBlacklisted] else [])
    ++ (if c.hasSecurity .allowlist then
          admin.map setAllowlisted ++ admin.map setAllowlistEnabled ++ [isAllowlisted]
        else [])

/-! ## The hook of transfers -/

def isZero (account : String) : Expression :=
  .binary .equal (.name account) (.call "address" [.number 0])

def isNotZero (account : String) : Expression :=
  .binary .differs (.name account) (.call "address" [.number 0])

/-- The transfer itself. -/
def passOn : Statement :=
  .eval (.call "super._update" [.name "from", .name "to", .name "value"])

/-- While there is no supply, a mint passes by every guard. -/
def bypass : Statement :=
  .when (.binary .and (isZero "from") (.binary .equal (.call "totalSupply" []) (.number 0)))
    [passOn, .leave]

def requireRunning : Statement :=
  .require (.not (.call "paused" [])) "Token transfers are paused"

def requireNotBlacklisted : Statement :=
  .require
    (.binary .and (.not (.entry "_blacklisted" (.name "from")))
      (.not (.entry "_blacklisted" (.name "to"))))
    "Address is blacklisted"

def requireAllowlisted : Statement :=
  .when (.name "allowlistEnabled")
    [.require
      (.binary .or (.entry "_allowlisted" (.name "from")) (.entry "_allowlisted" (.name "to")))
      "Address is not allowlisted"]

def requireLimits : Statement :=
  .when (.name "ANTI_WHALE_ENABLED")
    [.require (.binary .atMost (.name "value") (.name "maxTransactionAmount"))
        "Transfer exceeds max transaction amount",
      .require
        (.binary .atMost (.binary .plus (.call "balanceOf" [.name "to"]) (.name "value"))
          (.name "maxHolderLimit"))
        "Recipient exceeds max holder limit"]

def requireCooldown : Statement :=
  .when (.name "ANTI_BOT_ENABLED")
    [.require
        (.binary .atLeast (.name "block.timestamp")
          (.binary .plus (.entry "_lastTradeTime" (.name "from")) (.name "tradingCooldown")))
        "Trading cooldown active",
      .assign (.entry "_lastTradeTime" (.name "from")) (.name "block.timestamp")]

/-- The guards that act between two holders only. -/
def betweenHolders (c : TokenConfig) : List Statement :=
  let guards :=
    (if c.antiWhale.isSome then [requireLimits] else [])
      ++ (if c.tradingCooldown.isSome then [requireCooldown] else [])
  if guards.isEmpty then []
  else [.when (.binary .and (isNotZero "from") (isNotZero "to")) guards]

def hookBody (c : TokenConfig) : List Statement :=
  (if c.isGuarded then [bypass] else [])
    ++ (if c.has .pause then [requireRunning] else [])
    ++ (if c.hasSecurity .blacklist then [requireNotBlacklisted] else [])
    ++ (if c.hasSecurity .allowlist then [requireAllowlisted] else [])
    ++ betweenHolders c ++ [passOn]

/-- A token with a cap, a pause or a guard has one hook, any other none. -/
def hook (c : TokenConfig) : List Function :=
  if c.isGuarded || c.has .pause || c.has .cap then
    [{ name := "_update",
       params := [⟨.address, "from"⟩, ⟨.address, "to"⟩, ⟨.uint 256, "value"⟩],
       visibility := .isInternal, purity := none, guard := none,
       overrides := some (if c.has .cap then [Base.erc20.name, Base.capped.name] else []),
       returns := none, body := hookBody c }]
  else []

def functions (c : TokenConfig) : List Function :=
  decimalsFunction c ++ mintFunctions c ++ pausing c ++ securityFunctions c ++ hook c

end Synthesis

/-! ## The contract -/

namespace TokenConfig

open Synthesis

/-- The contract of a configuration. -/
def contract (c : TokenConfig) : Solidity.Contract where
  name := c.contractName
  imports := imports c
  bases := (bases c).map Base.name
  params := params c
  initializers := initializers c
  statements := statements c
  state := state c
  functions := functions c

def sourceUnit (c : TokenConfig) : SourceUnit := c.contract.toSourceUnit

/-- The source text of a configuration. -/
def source (c : TokenConfig) : String := c.sourceUnit.render

end TokenConfig

end TokenLaunch
