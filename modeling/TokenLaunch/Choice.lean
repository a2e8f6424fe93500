import TokenLaunch.Text

/-!
# Choices of the wizard

Six closed sets of features, each with the name of its field in a draft and the names of its
members.
-/

namespace TokenLaunch

/-- A closed set of features. -/
class Choice (α : Type) where
  /-- The field of a draft that holds the choice. -/
  field : String
  /-- Every feature, in the order in which generated sources take them. -/
  all : List α
  name : α → String

namespace Choice

variable {α : Type} [Choice α]

/-- The feature that a text names, blanks around it and the case of letters set aside. -/
def parse? (s : String) : Option α :=
  (all : List α).find? fun a => Text.sameWord (name a) (Text.trim s)

/-- The features of a list as a set, in the order of all features. -/
def select [DecidableEq α] (chosen : List α) : List α := all.filter (· ∈ chosen)

end Choice

/-- Who may call the privileged functions. -/
inductive AccessControl where
  | none
  | ownable
  | roles
  | manager
deriving DecidableEq, Repr

/-- Extra functions of the token. -/
inductive StandardFunction where
  | mint
  | burn
  | pause
  | cap
deriving DecidableEq, Repr

/-- Guards that act on transfers. -/
inductive SecurityFunction where
  | antiWhale
  | antiBot
  | blacklist
  | allowlist
deriving DecidableEq, Repr

/-- Taxes, which are recorded and have no part in sources. -/
inductive TaxFunction where
  | dividends
  | treasuryFee
  | autoLp
  | autoBurn
deriving DecidableEq, Repr

/-- Proxy patterns, which are recorded and have no part in sources. -/
inductive Upgradeability where
  | none
  | transparent
  | uups
deriving DecidableEq, Repr

/-- Ways of selling, which are recorded and have no part in sources. -/
inductive PresaleType where
  | none
  | ico
  | ido
  | launchpad
deriving DecidableEq, Repr

instance : Choice AccessControl where
  field := "accessControl"
  all := [.none, .ownable, .roles, .manager]
  name
    | .none => "none"
    | .ownable => "ownable"
    | .roles => "roles"
    | .manager => "manager"

instance : Choice StandardFunction where
  field := "standardFunctions"
  all := [.mint, .burn, .pause, .cap]
  name
    | .mint => "mint"
    | .burn => "burn"
    | .pause => "pause"
    | .cap => "cap"

instance : Choice SecurityFunction where
  field := "securityFunctions"
  all := [.antiWhale, .antiBot, .blacklist, .allowlist]
  name
    | .antiWhale => "antiwhale"
    | .antiBot => "antibot"
    | .blacklist => "blacklist"
    | .allowlist => "allowlist"

instance : Choice TaxFunction where
  field := "taxFunctions"
  all := [.dividends, .treasuryFee, .autoLp, .autoBurn]
  name
    | .dividends => "dividends"
    | .treasuryFee => "treasuryFee"
    | .autoLp => "autoLP"
    | .autoBurn => "autoBurn"

instance : Choice Upgradeability where
  field := "upgradeability"
  all := [.none, .transparent, .uups]
  name
    | .none => "none"
    | .transparent => "transparent"
    | .uups => "uups"

instance : Choice PresaleType where
  field := "presaleType"
  all := [.none, .ico, .ido, .launchpad]
  name
    | .none => "none"
    | .ico => "ico"
    | .ido => "ido"
    | .launchpad => "launchpad"

end TokenLaunch
