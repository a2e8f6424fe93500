import TokenLaunch.Json.Decoder

/-!
# Drafts

What the wizard collected, as texts, and its JSON form.
-/

namespace TokenLaunch

/-- A token as it was entered, before anything is checked. -/
structure Draft where
  network : String
  tokenName : String
  tokenSymbol : String
  decimals : String
  initialSupply : String
  maxSupply : Option String
  accessControl : String
  accessManager : Option String
  standardFunctions : List String
  securityFunctions : List String
  taxFunctions : List String
  upgradeability : String
  presaleType : String
  maxHolderLimit : Option String
  maxTransactionAmount : Option String
  tradingCooldown : Option String
deriving DecidableEq, Repr

namespace Draft

open Json Json.Decoder

/-- What a draft holds where nothing was entered. -/
def default : Draft where
  network := ""
  tokenName := ""
  tokenSymbol := ""
  decimals := "18"
  initialSupply := ""
  maxSupply := none
  accessControl := "none"
  accessManager := none
  standardFunctions := []
  securityFunctions := []
  taxFunctions := []
  upgradeability := "none"
  presaleType := "none"
  maxHolderLimit := none
  maxTransactionAmount := none
  tradingCooldown := none

/-- The fields in the order in which the list form takes them. -/
def fields : List Field :=
  [.of "network" text, .of "tokenName" text, .of "tokenSymbol" text, .of "decimals" text,
    .of "initialSupply" text, .of "maxSupply" (optional text), .of "accessControl" text,
    .of "accessManager" (optional text), .of "standardFunctions" (list text),
    .of "securityFunctions" (list text), .of "taxFunctions" (list text),
    .of "upgradeability" text, .of "presaleType" text, .of "maxHolderLimit" (optional text),
    .of "maxTransactionAmount" (optional text), .of "tradingCooldown" (optional text)]

/-- Every field may be left out. -/
def decoder : Decoder Draft := fun r => do
  let values ← record fields r
  let network ← withDefault "network" text default.network values
  let tokenName ← withDefault "tokenName" text default.tokenName values
  let tokenSymbol ← withDefault "tokenSymbol" text default.tokenSymbol values
  let decimals ← withDefault "decimals" text default.decimals values
  let initialSupply ← withDefault "initialSupply" text default.initialSupply values
  let maxSupply ← withDefault "maxSupply" (optional text) default.maxSupply values
  let accessControl ← withDefault "accessControl" text default.accessControl values
  let accessManager ← withDefault "accessManager" (optional text) default.accessManager values
  let standardFunctions ←
    withDefault "standardFunctions" (list text) default.standardFunctions values
  let securityFunctions ←
    withDefault "securityFunctions" (list text) default.securityFunctions values
  let taxFunctions ← withDefault "taxFunctions" (list text) default.taxFunctions values
  let upgradeability ← withDefault "upgradeability" text default.upgradeability values
  let presaleType ← withDefault "presaleType" text default.presaleType values
  let maxHolderLimit ← withDefault "maxHolderLimit" (optional text) default.maxHolderLimit values
  let maxTransactionAmount ←
    withDefault "maxTransactionAmount" (optional text) default.maxTransactionAmount values
  let tradingCooldown ←
    withDefault "tradingCooldown" (optional text) default.tradingCooldown values
  return { network, tokenName, tokenSymbol, decimals, initialSupply, maxSupply, accessControl,
           accessManager, standardFunctions, securityFunctions, taxFunctions, upgradeability,
           presaleType, maxHolderLimit, maxTransactionAmount, tradingCooldown }

def ofText (s : String) : Except Fault Draft := Decoder.run decoder s

def ofJson (j : Json) : Except Fault Draft := decoder j.reading

/-- The object with every field, absent ones as null. -/
def toJson (d : Draft) : Json :=
  .obj [("network", .str d.network), ("tokenName", .str d.tokenName),
    ("tokenSymbol", .str d.tokenSymbol), ("decimals", .str d.decimals),
    ("initialSupply", .str d.initialSupply), ("maxSupply", .ofOption .str d.maxSupply),
    ("accessControl", .str d.accessControl), ("accessManager", .ofOption .str d.accessManager),
    ("standardFunctions", .arr (d.standardFunctions.map .str)),
    ("securityFunctions", .arr (d.securityFunctions.map .str)),
    ("taxFunctions", .arr (d.taxFunctions.map .str)),
    ("upgradeability", .str d.upgradeability), ("presaleType", .str d.presaleType),
    ("maxHolderLimit", .ofOption .str d.maxHolderLimit),
    ("maxTransactionAmount", .ofOption .str d.maxTransactionAmount),
    ("tradingCooldown", .ofOption .str d.tradingCooldown)]

end Draft

end TokenLaunch
