import TokenLaunch.Address
import TokenLaunch.Amount
import TokenLaunch.Choice
import TokenLaunch.Draft
import TokenLaunch.Network

/-!
# Token configurations

A draft that passes every check becomes a configuration; the first check that fails names its
field.
-/

namespace TokenLaunch

/-- The fields of a draft that a check can find fault with. -/
inductive DraftField where
  | network
  | tokenName
  | tokenSymbol
  | decimals
  | initialSupply
  | maxSupply
  | accessControl
  | accessManager
  | standardFunctions
  | securityFunctions
  | taxFunctions
  | upgradeability
  | presaleType
  | maxHolderLimit
  | maxTransactionAmount
  | tradingCooldown
deriving DecidableEq, Repr

def DraftField.name : DraftField → String
  | network => "network"
  | tokenName => "tokenName"
  | tokenSymbol => "tokenSymbol"
  | decimals => "decimals"
  | initialSupply => "initialSupply"
  | maxSupply => "maxSupply"
  | accessControl => "accessControl"
  | accessManager => "accessManager"
  | standardFunctions => "standardFunctions"
  | securityFunctions => "securityFunctions"
  | taxFunctions => "taxFunctions"
  | upgradeability => "upgradeability"
  | presaleType => "presaleType"
  | maxHolderLimit => "maxHolderLimit"
  | maxTransactionAmount => "maxTransactionAmount"
  | tradingCooldown => "tradingCooldown"

/-- Why a draft is no configuration. -/
inductive ConfigError where
  | missing (field : DraftField)
  | badContractName (tokenName : String)
  | badNumber (field : DraftField) (value : String) (fault : NumberFault)
  | badAddress (field : DraftField) (value : String) (fault : Address.Fault)
  | unknownOption (field : DraftField) (value : String)
  | capTooLow (initialSupply maxSupply : String)
deriving DecidableEq, Repr

def ConfigError.message : ConfigError → String
  | missing f => "Missing required field: " ++ f.name
  | badContractName s =>
    "Token name '" ++ s ++ "' does not reduce to a valid contract identifier"
  | badNumber f v fault => "Invalid " ++ f.name ++ ": '" ++ v ++ "' (" ++ fault.message ++ ")"
  | badAddress f v fault =>
    "Invalid " ++ f.name ++ " address: '" ++ v ++ "' (" ++ fault.message ++ ")"
  | unknownOption f v => "Unknown " ++ f.name ++ " option: '" ++ v ++ "'"
  | capTooLow initial cap => "Max supply " ++ cap ++ " must exceed initial supply " ++ initial

/-- The two limits on single holders and single transfers. -/
structure AntiWhale where
  maxHolderLimit : Amount
  maxTransactionAmount : Amount
deriving DecidableEq, Repr

/-- A token that can be synthesized and launched. -/
structure TokenConfig where
  network : Network
  tokenName : String
  tokenSymbol : String
  contractName : String
  decimals : Nat
  initialSupply : Amount
  /-- There exactly when a cap is chosen. -/
  maxSupply : Option Amount
  accessControl : AccessControl
  /-- There exactly when a manager governs the token. -/
  accessManager : Option Address
  standardFunctions : List StandardFunction
  securityFunctions : List SecurityFunction
  taxFunctions : List TaxFunction
  upgradeability : Upgradeability
  presaleType : PresaleType
  /-- There exactly when the guard against large holders is chosen. -/
  antiWhale : Option AntiWhale
  /-- There exactly when the guard against quick trades is chosen. -/
  tradingCooldown : Option Nat
deriving DecidableEq, Repr

namespace TokenConfig

def has (c : TokenConfig) (f : StandardFunction) : Bool := c.standardFunctions.contains f

def hasSecurity (c : TokenConfig) (f : SecurityFunction) : Bool := c.securityFunctions.contains f

/-- Some guard acts on transfers. -/
def isGuarded (c : TokenConfig) : Bool := !c.securityFunctions.isEmpty

end TokenConfig

/-! ## Contract names -/

/-- A letter or digit of ASCII. -/
def isPlain (c : Char) : Bool := c.isAlpha || c.isDigit

/-- The name of the contract: the letters and digits of ASCII, from the first letter on, in upper
case; none when there is no letter. -/
def contractIdentifier? (s : String) : Option String :=
  match (s.toList.filter isPlain).dropWhile Char.isDigit with
  | [] => none
  | cs => some (String.ofList (cs.map Char.toUpper))

/-! ## Checks -/

namespace Draft

/-- Seconds between two trades where none are entered. -/
def defaultCooldown : Nat := 30

/-- The text of a field that has to be filled in. -/
def filled (field : DraftField) (s : String) : Except ConfigError String :=
  let s := Text.trim s
  if s.isEmpty then .error (.missing field) else .ok s

def choice {α : Type} [Choice α] (field : DraftField) (s : String) : Except ConfigError α :=
  match Choice.parse? s with
  | some a => .ok a
  | none => .error (.unknownOption field s)

/-- A choice that is none where nothing is entered. -/
def choiceOr {α : Type} [Choice α] (field : DraftField) (none : α) (s : String) :
    Except ConfigError α :=
  if (Text.trim s).isEmpty then .ok none else choice field s

def choices {α : Type} [DecidableEq α] [Choice α] (field : DraftField) (ss : List String) :
    Except ConfigError (List α) := do
  return Choice.select (← ss.mapM (choice field))

/-- An amount; `value` is the text that a fault shows. -/
def amount (field : DraftField) (value : String) (decimals : Nat) : Except ConfigError Amount :=
  (Amount.parse value decimals).mapError (.badNumber field value)

def checkNetwork (d : Draft) : Except ConfigError Network := do
  let s ← filled .network d.network
  match Network.parse? s with
  | some n => .ok n
  | none => .error (.unknownOption .network d.network)

def checkContractName (tokenName : String) : Except ConfigError String :=
  match contractIdentifier? tokenName with
  | some s => .ok s
  | none => .error (.badContractName tokenName)

/-- Decimals are a number of eight bits, and 18 where none are entered. -/
def checkDecimals (d : Draft) : Except ConfigError Nat :=
  let s := Text.trim d.decimals
  (readInteger 256 (if s.isEmpty then "18" else s)).mapError (.badNumber .decimals d.decimals)

def checkAuthority (d : Draft) (access : AccessControl) : Except ConfigError (Option Address) :=
  if access = .manager then do
    let s ← filled .accessManager (d.accessManager.getD "")
    match Address.parseAuthority s with
    | .ok a => .ok (some a)
    | .error fault => .error (.badAddress .accessManager s fault)
  else .ok none

/-- A cap is above the initial supply. -/
def checkCap (d : Draft) (chosen : Bool) (decimals : Nat) (initial : Amount) :
    Except ConfigError (Option Amount) :=
  if chosen then
    match d.maxSupply.filter (!Text.isBlankText ·) with
    | none => .error (.missing .maxSupply)
    | some s => do
      let cap ← amount .maxSupply s decimals
      if cap.baseUnits ≤ initial.baseUnits then .error (.capTooLow initial.entered cap.entered)
      else .ok (some cap)
  else .ok none

def checkAntiWhale (d : Draft) (chosen : Bool) (decimals : Nat) :
    Except ConfigError (Option AntiWhale) :=
  if chosen then do
    let holder ← filled .maxHolderLimit (d.maxHolderLimit.getD "")
    let transaction ← filled .maxTransactionAmount (d.maxTransactionAmount.getD "")
    let maxHolderLimit ← amount .maxHolderLimit holder decimals
    let maxTransactionAmount ← amount .maxTransactionAmount transaction decimals
    return some { maxHolderLimit, maxTransactionAmount }
  else .ok none

def checkCooldown (d : Draft) (chosen : Bool) : Except ConfigError (Option Nat) :=
  if chosen then
    let s := Text.trim (d.tradingCooldown.getD "")
    if s.isEmpty then .ok (some defaultCooldown)
    else ((readInteger (twoTo 64) s).mapError (.badNumber .tradingCooldown s)).map some
  else .ok none

/-- The configuration of a draft, or the first fault in it. -/
def validate (d : Draft) : Except ConfigError TokenConfig := do
  let network ← d.checkNetwork
  let tokenName ← filled .tokenName d.tokenName
  let tokenSymbol ← filled .tokenSymbol d.tokenSymbol
  let contractName ← checkContractName tokenName
  let decimals ← d.checkDecimals
  let supply ← filled .initialSupply d.initialSupply
  let initialSupply ← amount .initialSupply supply decimals
  let accessControl ← choice .accessControl d.accessControl
  let accessManager ← d.checkAuthority accessControl
  let standardFunctions ← choices .standardFunctions d.standardFunctions
  let securityFunctions ← choices .securityFunctions d.securityFunctions
  let taxFunctions ← choices .taxFunctions d.taxFunctions
  let upgradeability ← choiceOr .upgradeability .none d.upgradeability
  let presaleType ← choiceOr .presaleType .none d.presaleType
  let maxSupply ← d.checkCap (standardFunctions.contains .cap) decimals initialSupply
  let antiWhale ← d.checkAntiWhale (securityFunctions.contains .antiWhale) decimals
  let tradingCooldown ← d.checkCooldown (securityFunctions.contains .antiBot)
  return { network, tokenName, tokenSymbol, contractName, decimals, initialSupply, maxSupply,
           accessControl, accessManager, standardFunctions, securityFunctions, taxFunctions,
           upgradeability, presaleType, antiWhale, tradingCooldown }

end Draft

end TokenLaunch
