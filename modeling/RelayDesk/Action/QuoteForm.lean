import RelayDesk.Action.Params
import RelayDesk.Quote.Request

/-!
The params of quotes.  A swap takes an amount for the side that is fixed only: an amount for the
other side is a mistake and is not passed over.
-/

namespace RelayDesk
namespace Action

/-- A choice read from its text, or the default. -/
def chooseBy {α : Type} (ofText : String → Except Quote.Invalid α) (default : α) :
    Option String → Except Invalid α
  | none => .ok default
  | some raw => (ofText raw).mapError .quote

def requireAmount (name : String) : Option Quote.Amount → Except Invalid Quote.Amount
  | some a => .ok a
  | none => .error (.missing name)

/-- The providers asked for: one by name, and a list of preferences. -/
def constraintOfParams (p : Params) : Except Invalid Quote.Constraint := do
  let exact ← p.text? ["provider"]
  let priority ← p.list? ["providers", "providerPriority"]
  return { exact := exact.map Text.lower, priority := priority.getD [] }

def bridgeOfParams (p : Params) : Except Invalid Quote.BridgeRequest := do
  let amount ← requireAmount "amount" (← p.amount? ["amount"])
  let strategy ← chooseBy Quote.BridgeStrategy.ofText .bestOut (← p.text? ["strategy"])
  let fromChain ← p.text? ["from", "fromChain"]
  let toChain ← p.text? ["to", "toChain"]
  let asset ← p.text? ["asset", "assetSymbol", "token"]
  let providers ← constraintOfParams p
  return {
    fromChain := fromChain.getD "", toChain := toChain.getD "", asset := asset.getD ""
    amount, providers, strategy }

/-- The amount of the side that the trade fixes. -/
def tradeAmount (p : Params) : Quote.TradeType → Except Invalid Quote.Amount
  | .exactInput => do
    if p.contains "amountOut" then .error .amountOutOnInput
    else requireAmount "amount" (← p.amount? ["amount", "amountIn"])
  | .exactOutput => do
    if p.contains "amountIn" then .error .amountInOnOutput
    else requireAmount "amountOut" (← p.amount? ["amountOut", "amount"])

def swapOfParams (p : Params) : Except Invalid Quote.SwapRequest := do
  let tradeType ← chooseBy Quote.TradeType.ofText .exactInput (← p.text? ["type", "tradeType"])
  let amount ← tradeAmount p tradeType
  let strategy ← chooseBy Quote.SwapStrategy.ofText .bestOut (← p.text? ["strategy"])
  let chain ← p.text? ["chain", "chainId"]
  let fromAsset ← p.text? ["fromAsset", "tokenIn", "sellToken"]
  let toAsset ← p.text? ["toAsset", "tokenOut", "buyToken"]
  let providers ← constraintOfParams p
  let slippagePct ← p.float? ["slippagePct", "slippage"]
  return {
    chain := chain.getD "", fromAsset := fromAsset.getD "", toAsset := toAsset.getD ""
    amount, tradeType, providers, strategy, slippagePct }

end Action
end RelayDesk
