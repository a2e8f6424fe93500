import TokenLaunch.ApiKeys
import TokenLaunch.Url

/-!
# Explorers

The table of the explorers that take sources, with the addresses that a user has put in place of
the built-in ones.
-/

namespace TokenLaunch

/-- An explorer as the table has it. -/
structure Explorer where
  network : Network
  apiUrl : String
  isCustom : Bool
deriving DecidableEq, Repr

/-- The explorer of each network, if it has one. -/
def Explorers := Network → Option Explorer

/-- Where and with which key a source is submitted. -/
structure Endpoint where
  network : Network
  apiUrl : String
  apiKey : String
deriving DecidableEq, Repr

def Explorer.builtIn (n : Network) : Explorer := ⟨n, n.explorerUrl, false⟩

namespace Explorers

/-- The table with an entry replaced. -/
def put (t : Explorers) (n : Network) (e : Explorer) : Explorers :=
  fun m => if m = n then some e else t m

@[simp] theorem put_same (t : Explorers) (n : Network) (e : Explorer) : t.put n e n = some e := by
  simp [put]

theorem put_other (t : Explorers) {n m : Network} (e : Explorer) (h : m ≠ n) :
    t.put n e m = t m := by
  simp [put, h]

/-- Every network has its built-in explorer. -/
def default : Explorers := fun n => some (.builtIn n)

/-- What is told of a text that is no address of an explorer. -/
def invalidUrl (url : String) : String := "invalid explorer URL: " ++ url

/-- Puts an address in place of that of a network, if it is one of the web. -/
def setUrl? (t : Explorers) (n : Network) (url : String) : Option Explorers :=
  if Url.isValid url then
    let e := (t n).getD (.builtIn n)
    some (t.put n { e with apiUrl := url, isCustom := true })
  else none

def reset (t : Explorers) (n : Network) : Explorers := t.put n (.builtIn n)

def endpoint? (t : Explorers) (keys : ApiKeys) (n : Network) : Option Endpoint :=
  (t n).map fun e => ⟨n, e.apiUrl, keys.get n.keyVariable⟩

end Explorers

/-! ## JSON -/

open Json Json.Decoder

namespace Explorer

def fields : List Field := [.of "network" Network.decoder, .of "api_url" text, .of "is_custom" bool]

def decoder : Decoder Explorer := fun r => do
  let values ← record fields r
  let n ← required "network" Network.decoder values
  let apiUrl ← required "api_url" text values
  let isCustom ← required "is_custom" bool values
  return ⟨n, apiUrl, isCustom⟩

def toJson (e : Explorer) : Json :=
  .obj [("network", .str e.network.slug), ("api_url", .str e.apiUrl),
    ("is_custom", .bool e.isCustom)]

end Explorer

namespace Explorers

/-- The table that a list of entries makes; the last of a network counts. -/
def ofEntries (es : List (Network × Explorer)) : Explorers :=
  es.foldl (fun t e => t.put e.1 e.2) fun _ => none

def entries : Decoder Explorers := fun r =>
  (dictionary Network.ofSlug? Explorer.decoder r).map ofEntries

def decoder : Decoder Explorers := fun r => do
  required "configs" entries (← record [.of "configs" entries] r)

def ofText (s : String) : Except Fault Explorers := Decoder.run decoder s

/-- An object with a member for each network that has an explorer. -/
def toJson (t : Explorers) : Json :=
  .obj [("configs", .obj (Network.all.filterMap fun n => (t n).map fun e => (n.slug, e.toJson)))]

end Explorers

end TokenLaunch
