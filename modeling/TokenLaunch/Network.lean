import TokenLaunch.Json.Decoder

/-!
# Networks

The chains that a token can be launched on, and the networks whose explorers take sources for
verification.
-/

namespace TokenLaunch

inductive Network where
  | ethereum
  | arbitrum
  | avalanche
  | polygon
  | bsc
  | optimism
  | sepolia
  | arbitrumGoerli
  | avalancheFuji
  | polygonMumbai
  | bscTestnet
  | optimismGoerli
deriving DecidableEq, Repr

namespace Network

/-- Every network, main networks first. -/
def all : List Network :=
  [.ethereum, .arbitrum, .avalanche, .polygon, .bsc, .optimism, .sepolia, .arbitrumGoerli,
    .avalancheFuji, .polygonMumbai, .bscTestnet, .optimismGoerli]

theorem mem_all (n : Network) : n ∈ all := by cases n <;> decide

/-- The name in drafts, records and tables. -/
def slug : Network → String
  | ethereum => "ethereum"
  | arbitrum => "arbitrum"
  | avalanche => "avalanche"
  | polygon => "polygon"
  | bsc => "bsc"
  | optimism => "optimism"
  | sepolia => "sepolia"
  | arbitrumGoerli => "arbitrum-goerli"
  | avalancheFuji => "avalanche-fuji"
  | polygonMumbai => "polygon-mumbai"
  | bscTestnet => "bsc-testnet"
  | optimismGoerli => "optimism-goerli"

/-- The name for people. -/
def label : Network → String
  | ethereum => "Ethereum"
  | arbitrum => "Arbitrum"
  | avalanche => "Avalanche"
  | polygon => "Polygon"
  | bsc => "BSC"
  | optimism => "Optimism"
  | sepolia => "Sepolia"
  | arbitrumGoerli => "Arbitrum Goerli"
  | avalancheFuji => "Avalanche Fuji"
  | polygonMumbai => "Polygon Mumbai"
  | bscTestnet => "BSC Testnet"
  | optimismGoerli => "Optimism Goerli"

def chainId : Network → Nat
  | ethereum => 1
  | arbitrum => 42161
  | avalanche => 43114
  | polygon => 137
  | bsc => 56
  | optimism => 10
  | sepolia => 11155111
  | arbitrumGoerli => 421613
  | avalancheFuji => 43113
  | polygonMumbai => 80001
  | bscTestnet => 97
  | optimismGoerli => 420

def isTestnet : Network → Bool
  | ethereum | arbitrum | avalanche | polygon | bsc | optimism => false
  | _ => true

/-- The environment variable of the explorer key; a test network shares that of its family. -/
def keyVariable : Network → String
  | ethereum | sepolia => "ETHERSCAN_API_KEY"
  | arbitrum | arbitrumGoerli => "ARBISCAN_API_KEY"
  | avalanche | avalancheFuji => "SNOWTRACE_API_KEY"
  | polygon | polygonMumbai => "POLYGONSCAN_API_KEY"
  | bsc | bscTestnet => "BSCSCAN_API_KEY"
  | optimism | optimismGoerli => "OPTIMISM_API_KEY"

/-- The built-in address of the explorer. -/
def explorerUrl : Network → String
  | ethereum => "https://api.etherscan.io/api"
  | arbitrum => "https://api.arbiscan.io/api"
  | avalanche => "https://api.snowtrace.io/api"
  | polygon => "https://api.polygonscan.com/api"
  | bsc => "https://api.bscscan.com/api"
  | optimism => "https://api-optimistic.etherscan.io/api"
  | sepolia => "https://api-sepolia.etherscan.io/api"
  | arbitrumGoerli => "https://api-goerli.arbiscan.io/api"
  | avalancheFuji => "https://api-testnet.snowtrace.io/api"
  | polygonMumbai => "https://api-testnet.polygonscan.com/api"
  | bscTestnet => "https://api-testnet.bscscan.com/api"
  | optimismGoerli => "https://api-goerli-optimistic.etherscan.io/api"

/-- The network of exactly this slug. -/
def ofSlug? (s : String) : Option Network := all.find? (·.slug == s)

theorem ofSlug?_slug (n : Network) : ofSlug? n.slug = some n := by cases n <;> decide

/-- The network that a text names, blanks around it and the case of letters set aside. -/
def parse? (s : String) : Option Network := ofSlug? (Text.lower (Text.trim s))

/-- What is told of a text that names no network. -/
def unsupported (s : String) : String := "unsupported network: " ++ s

/-- A network as JSON has it. -/
def decoder : Json.Decoder Network := Json.Decoder.oneOf ofSlug?

/-- The network whose explorer takes the sources of contracts on this chain: test networks only. -/
def ofChainId? (id : Nat) : Option Network := all.find? fun n => n.isTestnet && n.chainId == id

theorem ofChainId?_chainId {n : Network} (h : n.isTestnet = true) :
    ofChainId? n.chainId = some n := by
  revert h
  cases n <;> decide

theorem ofChainId?_eq_some_iff {id : Nat} {n : Network} :
    ofChainId? id = some n ↔ n.isTestnet = true ∧ n.chainId = id := by
  constructor
  · intro h
    have hfound := List.find?_some h
    rwa [Bool.and_eq_true, beq_iff_eq] at hfound
  · rintro ⟨htest, rfl⟩
    exact ofChainId?_chainId htest

end Network

end TokenLaunch
