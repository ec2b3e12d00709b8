import RelayDesk.Json.Basic
import RelayDesk.Quote.Chain
import RelayDesk.Quote.Kind
import RelayDesk.Quote.Provider

/-!
Rows of the quote tables, and the rows of a route.  A row is on a route when its chains have the
same normal names and its assets the same letters; what a table is made of otherwise is up to its
owner.
-/

namespace RelayDesk
namespace Quote

structure BridgeRow where
  provider : String
  fromChain : String
  toChain : String
  asset : String
  feeBps : Nat
  etaSeconds : Nat
  deriving DecidableEq, Repr

structure SwapRow where
  provider : String
  chain : String
  fromAsset : String
  toAsset : String
  tradeType : TradeType
  feeBps : Nat
  impactBps : Nat
  deriving DecidableEq, Repr

instance : HasProvider BridgeRow := ⟨BridgeRow.provider⟩

instance : HasProvider SwapRow := ⟨SwapRow.provider⟩

def BridgeRow.serves (r : BridgeRow) (fromChain toChain asset : String) : Bool :=
  normalizeChain r.fromChain == normalizeChain fromChain &&
    normalizeChain r.toChain == normalizeChain toChain &&
    Text.sameLetters r.asset (Text.trim asset)

def SwapRow.serves (r : SwapRow) (chain fromAsset toAsset : String) (tradeType : TradeType) :
    Bool :=
  normalizeChain r.chain == normalizeChain chain && r.tradeType == tradeType &&
    Text.sameLetters r.fromAsset (Text.trim fromAsset) &&
    Text.sameLetters r.toAsset (Text.trim toAsset)

structure Tables where
  bridges : List BridgeRow
  swaps : List SwapRow
  deriving DecidableEq, Repr

namespace Tables

def bridgeRows (t : Tables) (fromChain toChain asset : String) : List BridgeRow :=
  t.bridges.filter (·.serves fromChain toChain asset)

def swapRows (t : Tables) (chain fromAsset toAsset : String) (tradeType : TradeType) :
    List SwapRow :=
  t.swaps.filter (·.serves chain fromAsset toAsset tradeType)

def builtin : Tables where
  bridges :=
    [⟨"across", "eip155:1", "eip155:8453", "USDC", 5, 120⟩,
     ⟨"stargate", "eip155:1", "eip155:8453", "USDC", 6, 45⟩,
     ⟨"cctp", "eip155:1", "eip155:8453", "USDC", 0, 1020⟩,
     ⟨"across", "eip155:8453", "eip155:1", "USDC", 5, 180⟩,
     ⟨"cctp", "eip155:8453", "eip155:1", "USDC", 0, 1020⟩,
     ⟨"across", "eip155:1", "eip155:42161", "USDC", 4, 90⟩,
     ⟨"stargate", "eip155:1", "eip155:42161", "USDC", 6, 45⟩,
     ⟨"across", "eip155:1", "eip155:42161", "ETH", 5, 90⟩,
     ⟨"hop", "eip155:1", "eip155:42161", "ETH", 8, 300⟩,
     ⟨"across", "eip155:1", "eip155:10", "ETH", 5, 90⟩,
     ⟨"hop", "eip155:1", "eip155:10", "ETH", 8, 300⟩,
     ⟨"across", "eip155:42161", "eip155:8453", "ETH", 4, 60⟩,
     ⟨"stargate", "eip155:42161", "eip155:8453", "ETH", 6, 40⟩,
     ⟨"cctp", "eip155:1", "solana:mainnet", "USDC", 0, 1200⟩,
     ⟨"wormhole", "eip155:1", "solana:mainnet", "USDC", 10, 900⟩]
  swaps :=
    [⟨"uniswap", "eip155:1", "ETH", "USDC", .exactInput, 30, 5⟩,
     ⟨"uniswap", "eip155:1", "ETH", "USDC", .exactOutput, 30, 5⟩,
     ⟨"sushiswap", "eip155:1", "ETH", "USDC", .exactInput, 30, 12⟩,
     ⟨"1inch", "eip155:1", "ETH", "USDC", .exactInput, 10, 8⟩,
     ⟨"uniswap", "eip155:1", "USDC", "ETH", .exactInput, 30, 5⟩,
     ⟨"uniswap", "eip155:1", "USDC", "ETH", .exactOutput, 30, 5⟩,
     ⟨"1inch", "eip155:1", "USDC", "ETH", .exactInput, 10, 8⟩,
     ⟨"uniswap", "eip155:8453", "ETH", "USDC", .exactInput, 5, 3⟩,
     ⟨"uniswap", "eip155:8453", "ETH", "USDC", .exactOutput, 5, 3⟩,
     ⟨"aerodrome", "eip155:8453", "ETH", "USDC", .exactInput, 4, 6⟩,
     ⟨"uniswap", "eip155:42161", "ETH", "USDC", .exactInput, 5, 4⟩,
     ⟨"uniswap", "eip155:42161", "ETH", "USDC", .exactOutput, 5, 4⟩,
     ⟨"camelot", "eip155:42161", "ETH", "USDC", .exactInput, 30, 10⟩,
     ⟨"jupiter", "solana:mainnet", "SOL", "USDC", .exactInput, 5, 4⟩,
     ⟨"orca", "solana:mainnet", "SOL", "USDC", .exactInput, 30, 6⟩,
     ⟨"raydium", "solana:mainnet", "SOL", "USDC", .exactInput, 25, 9⟩]

end Tables
end Quote
end RelayDesk
