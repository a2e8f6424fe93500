import TokenLaunch.VerificationState
import TokenLaunch.Network

/-!
# Deployments

What a launch tells of itself when it has succeeded.
-/

namespace TokenLaunch

structure Deployment where
  contractAddress : String
  chainId : Nat
  /-- The network whose explorer takes the source, if the chain has one. -/
  network : Option Network
  txHash : Option String
  state : VerificationState
deriving DecidableEq, Repr

namespace Deployment

def toMembers (d : Deployment) : List (String × Json) :=
  [("contractAddress", .str d.contractAddress), ("chainId", .nat d.chainId),
    ("network", .ofOption (fun n => .str n.slug) d.network), ("txHash", .ofOption .str d.txHash),
    ("verificationState", .str d.state.name)]

end Deployment

end TokenLaunch
