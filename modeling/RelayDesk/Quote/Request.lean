import RelayDesk.Json.Basic
import RelayDesk.Number.Shortest
import RelayDesk.Quote.Select

/-!
Requests for quotes and their answers.  The fields that name the route must not be blank; then an
exact output is checked against what its one provider offers, before the slippage and before any
row is looked at.
-/

namespace RelayDesk
namespace Quote

open Number (Binary64)

structure BridgeRequest where
  fromChain : String
  toChain : String
  asset : String
  amount : Amount
  providers : Constraint
  strategy : BridgeStrategy
  deriving DecidableEq, Repr

structure BridgeQuote where
  provider : String
  fromChain : String
  toChain : String
  asset : String
  input : Amount
  output : Amount
  feeBps : Nat
  etaSeconds : Nat
  strategy : BridgeStrategy
  source : QuoteSource
  deriving DecidableEq, Repr

def BridgeQuote.members (q : BridgeQuote) : List (String × Json) :=
  [("provider", .str q.provider), ("fromChain", .str q.fromChain), ("toChain", .str q.toChain),
   ("asset", .str q.asset), ("amountIn", .str q.input.text),
   ("estimatedAmountOut", .str q.output.text), ("feeBps", .ofNat q.feeBps),
   ("etaSeconds", .ofNat q.etaSeconds), ("strategy", .str q.strategy.name),
   ("source", .str q.source.name)]

/-- A request for a swap quote.  The amount is the input or the output, as the trade fixes it. -/
structure SwapRequest where
  chain : String
  fromAsset : String
  toAsset : String
  amount : Amount
  tradeType : TradeType
  providers : Constraint
  strategy : SwapStrategy
  /-- Passed on, and no part of any amount. -/
  slippagePct : Option Binary64
  deriving DecidableEq, Repr

structure SwapQuote where
  provider : String
  chain : String
  fromAsset : String
  toAsset : String
  input : Amount
  output : Amount
  feeBps : Nat
  impactBps : Nat
  tradeType : TradeType
  strategy : SwapStrategy
  source : QuoteSource
  slippagePct : Option Binary64
  deriving DecidableEq, Repr

def SwapQuote.members (q : SwapQuote) : List (String × Json) :=
  [("provider", .str q.provider), ("chain", .str q.chain), ("fromAsset", .str q.fromAsset),
   ("toAsset", .str q.toAsset), ("amountIn", .str q.input.text),
   ("estimatedAmountOut", .str q.output.text), ("feeBps", .ofNat q.feeBps),
   ("priceImpactBps", .ofNat q.impactBps), ("tradeType", .str q.tradeType.name),
   ("strategy", .str q.strategy.name), ("source", .str q.source.name)] ++
  match q.slippagePct with
  | some pct => [("slippagePct", .num pct.jsonText)]
  | none => []

/-- A field that must not be blank. -/
def requireText (field value : String) : Except Fault Unit :=
  if Text.isAllBlank value then .error (.validation (.missing field)) else .ok ()

def quoteBridge (tables : Tables) (r : BridgeRequest) : Except Fault BridgeQuote := do
  requireText "from" r.fromChain
  requireText "to" r.toChain
  requireText "asset" r.asset
  let rows := tables.bridgeRows r.fromChain r.toChain r.asset
  let best ← selectBridge rows r.amount r.providers r.strategy
  return {
    provider := best.row.provider
    fromChain := normalizeChain r.fromChain
    toChain := normalizeChain r.toChain
    asset := best.row.asset
    input := best.input
    output := best.output
    feeBps := best.row.feeBps
    etaSeconds := best.row.etaSeconds
    strategy := r.strategy
    source := .table }

/-- The providers that may serve an exact output: the one that offers it, on the chains where it
does, unless the request excludes it. -/
def resolveExactOutput (chain : String) (c : Constraint) :
    Except Fault (Constraint × QuoteSource) :=
  if !isEvmChain chain then .error (.unsupported (.chain chain))
  else match c.exact with
    | some name =>
      if c.isExactly exactOutputProvider then .ok (.only exactOutputProvider, .table)
      else .error (.unsupported (.provider name))
    | none =>
      if c.priority.isEmpty then .ok (.only exactOutputProvider, .tableDefaultProvider)
      else if c.priority.contains exactOutputProvider then
        .ok (.only exactOutputProvider, .table)
      else .error (.unsupported .providerList)

/-- A slippage, if there is one, is a percentage above zero for the one provider that takes it. -/
def checkSlippage (slippagePct : Option Binary64) (c : Constraint) : Except Fault Unit :=
  match slippagePct with
  | none => .ok ()
  | some pct =>
    if !(pct.isPositive && pct.atMost 100) then
      .error (.validation (.slippageRange pct.text))
    else if !c.isExactly exactOutputProvider then .error (.validation .slippageProvider)
    else .ok ()

/-- The providers that may serve the request, and where they come from. -/
def SwapRequest.resolve (r : SwapRequest) : Except Fault (Constraint × QuoteSource) :=
  match r.tradeType with
  | .exactInput => .ok (r.providers, .table)
  | .exactOutput => resolveExactOutput r.chain r.providers

def quoteSwap (tables : Tables) (r : SwapRequest) : Except Fault SwapQuote := do
  requireText "chain" r.chain
  requireText "fromAsset" r.fromAsset
  requireText "toAsset" r.toAsset
  let (providers, source) ← r.resolve
  checkSlippage r.slippagePct r.providers
  let rows := tables.swapRows r.chain r.fromAsset r.toAsset r.tradeType
  let best ← selectSwap rows r.amount r.tradeType providers r.strategy
  return {
    provider := best.row.provider
    chain := normalizeChain r.chain
    fromAsset := best.row.fromAsset
    toAsset := best.row.toAsset
    input := best.input
    output := best.output
    feeBps := best.row.feeBps
    impactBps := best.row.impactBps
    tradeType := r.tradeType
    strategy := r.strategy
    source
    slippagePct := r.slippagePct }

end Quote
end RelayDesk
