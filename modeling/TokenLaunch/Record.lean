import TokenLaunch.Deployment
import TokenLaunch.Instant
import TokenLaunch.RecordId

/-!
# Deployment records

What is kept of a deployed token, and its JSON form.
-/

namespace TokenLaunch

/-- A deployment that is kept under an identifier and a date. -/
structure Record where
  id : RecordId
  deployment : Deployment
  deployedAt : Instant
deriving DecidableEq, Repr

namespace Record

open Json Json.Decoder

def fields : List Field :=
  [.of "id" (textVia RecordId.ofText?), .of "contractAddress" text,
    .of "chainId" (natBelow (twoTo 64)), .of "network" (optional Network.decoder),
    .of "txHash" (optional text), .of "verificationState" VerificationState.decoder,
    .of "deployedAt" (textVia Instant.ofText?)]

/-- Only the network and the hash may be left out. -/
def decoder : Decoder Record := fun r => do
  let values ← record fields r
  let id ← required "id" (textVia RecordId.ofText?) values
  let contractAddress ← required "contractAddress" text values
  let chainId ← required "chainId" (natBelow (twoTo 64)) values
  let network ← withDefault "network" (optional Network.decoder) none values
  let txHash ← withDefault "txHash" (optional text) none values
  let state ← required "verificationState" VerificationState.decoder values
  let deployedAt ← required "deployedAt" (textVia Instant.ofText?) values
  return { id, deployment := { contractAddress, chainId, network, txHash, state }, deployedAt }

def ofText (s : String) : Except Fault Record := Decoder.run decoder s

def toJson (r : Record) : Json :=
  .obj (("id", .str (RecordId.text r.id)) :: r.deployment.toMembers
    ++ [("deployedAt", .str r.deployedAt.text)])

end Record

end TokenLaunch
