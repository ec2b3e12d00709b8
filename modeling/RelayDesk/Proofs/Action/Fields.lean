import RelayDesk.Action.Dispatch

/-!
The fields that an action reads.  What an action does depends on its params only through the values
under a few names, so params that have the same under those names are served alike.
-/

namespace RelayDesk
namespace Action

namespace Params

/-- Params that have the same under each of the names. -/
def SameAt (names : List String) (p q : Params) : Prop :=
  ∀ name ∈ names, p.find? name = q.find? name

theorem sameAt_of_members {names : List String} {ms ns : List (String × Json)}
    (h : ∀ name ∈ names, Keyed.find? name ms = Keyed.find? name ns) :
    SameAt names { members := ms } { members := ns } := by
  intro name hname
  unfold find?
  rw [h name hname]

namespace SameAt

variable {fields : List String} {p q : Params}

theorem mono {names : List String} (h : SameAt fields p q) (hsub : names ⊆ fields) :
    SameAt names p q := by
  intro name hname
  exact h name (hsub hname)

theorem agreeFrom {α : Type} (read : String → Json → Except Invalid (Option α))
    (same : α → α → Bool) {names : List String} (h : SameAt names p q)
    (found : Option (String × α)) :
    p.agreeFrom read same found names = q.agreeFrom read same found names := by
  induction names generalizing found with
  | nil => rfl
  | cons name rest ih =>
    have hhead : p.find? name = q.find? name := h name List.mem_cons_self
    have hrest : SameAt rest p q := h.mono (List.subset_cons_self name rest)
    unfold Params.agreeFrom
    rw [hhead]
    cases q.find? name with
    | none => exact ih hrest found
    | some v => simp only [ih hrest]

theorem agree {α : Type} {read : String → Json → Except Invalid (Option α)}
    {same : α → α → Bool} (h : SameAt fields p q) {names : List String} (hsub : names ⊆ fields) :
    p.agree read same names = q.agree read same names :=
  agreeFrom read same (h.mono hsub) none

variable (h : SameAt fields p q) (names : List String) (hsub : names ⊆ fields)

include h hsub

theorem value? : p.value? names = q.value? names := h.agree hsub

theorem text? : p.text? names = q.text? names := h.agree hsub

theorem whole? : p.whole? names = q.whole? names := h.agree hsub

theorem bool? : p.bool? names = q.bool? names := h.agree hsub

theorem float? : p.float? names = q.float? names := h.agree hsub

theorem amount? : p.amount? names = q.amount? names := h.agree hsub

theorem text : p.text names = q.text names := by
  unfold Params.text
  rw [h.text? names hsub]

theorem list? : p.list? names = q.list? names := by
  unfold Params.list?
  rw [h.value? names hsub]

omit hsub names

theorem contains (name : String) (hname : name ∈ fields) : p.contains name = q.contains name := by
  unfold Params.contains
  rw [h name hname]

end SameAt
end Params

open Params (SameAt)

/-! ## Forms -/

section Forms

variable {fields : List String} {p q : Params} (h : SameAt fields p q)

include h

theorem constraintOfParams_congr (hsub : ["provider", "providers", "providerPriority"] ⊆ fields) :
    constraintOfParams p = constraintOfParams q := by
  have hsame := h.mono hsub
  unfold constraintOfParams
  rw [hsame.text? ["provider"] (by decide),
    hsame.list? ["providers", "providerPriority"] (by decide)]

theorem tradeAmount_congr (hsub : ["amount", "amountIn", "amountOut"] ⊆ fields)
    (tradeType : Quote.TradeType) : tradeAmount p tradeType = tradeAmount q tradeType := by
  have hsame := h.mono hsub
  unfold tradeAmount
  rw [hsame.contains "amountOut" (by decide), hsame.contains "amountIn" (by decide),
    hsame.amount? ["amount", "amountIn"] (by decide),
    hsame.amount? ["amountOut", "amount"] (by decide)]

theorem callParams_congr (hsub : ["params", "paramsJson"] ⊆ fields) :
    CallParams.ofParams p = CallParams.ofParams q := by
  have hsame := h.mono hsub
  unfold CallParams.ofParams CallParams.ofField
  rw [hsame.value? ["params"] (by decide), hsame.value? ["paramsJson"] (by decide)]

end Forms

/-! ## Operations -/

/-- The names under which an operation looks for its params. -/
def Operation.fields : Operation → List String
  | .rpcCallCached =>
    ["rpcUrl", "rpc_url", "url", "method", "params", "paramsJson", "cacheKey", "cache_key",
     "ttlSeconds", "ttl", "maxStaleSeconds", "maxStale", "allowStaleFallback", "allowStale"]
  | .bridgeQuote =>
    ["amount", "strategy", "from", "fromChain", "to", "toChain", "asset", "assetSymbol", "token",
     "provider", "providers", "providerPriority"]
  | .swapQuote =>
    ["type", "tradeType", "amount", "amountIn", "amountOut", "strategy", "chain", "chainId",
     "fromAsset", "tokenIn", "sellToken", "toAsset", "tokenOut", "buyToken", "provider",
     "providers", "providerPriority", "slippagePct", "slippage"]
  | .cachePut => ["key", "cacheKey", "ttlSeconds", "ttl", "value"]
  | .cacheGet => ["key", "cacheKey"]
  | .methodPolicy => ["method"]
  | .listActions => []

section Operations

variable {p q : Params}

theorem callOfParams_congr (h : SameAt Operation.rpcCallCached.fields p q) :
    callOfParams p = callOfParams q := by
  unfold callOfParams
  rw [h.text ["rpcUrl", "rpc_url", "url"] (by decide), h.text ["method"] (by decide),
    callParams_congr h (by decide), h.text? ["cacheKey", "cache_key"] (by decide),
    h.whole? ["ttlSeconds", "ttl"] (by decide), h.whole? ["maxStaleSeconds", "maxStale"] (by decide),
    h.bool? ["allowStaleFallback", "allowStale"] (by decide)]

theorem bridgeOfParams_congr (h : SameAt Operation.bridgeQuote.fields p q) :
    bridgeOfParams p = bridgeOfParams q := by
  unfold bridgeOfParams
  rw [h.amount? ["amount"] (by decide), h.text? ["strategy"] (by decide),
    h.text? ["from", "fromChain"] (by decide), h.text? ["to", "toChain"] (by decide),
    h.text? ["asset", "assetSymbol", "token"] (by decide), constraintOfParams_congr h (by decide)]

theorem swapOfParams_congr (h : SameAt Operation.swapQuote.fields p q) :
    swapOfParams p = swapOfParams q := by
  unfold swapOfParams
  simp only [tradeAmount_congr h (by decide)]
  rw [h.text? ["type", "tradeType"] (by decide), h.text? ["strategy"] (by decide),
    h.text? ["chain", "chainId"] (by decide),
    h.text? ["fromAsset", "tokenIn", "sellToken"] (by decide),
    h.text? ["toAsset", "tokenOut", "buyToken"] (by decide), constraintOfParams_congr h (by decide),
    h.float? ["slippagePct", "slippage"] (by decide)]

theorem recordOfParams_congr (h : SameAt Operation.cachePut.fields p q) (now : Int) :
    recordOfParams p now = recordOfParams q now := by
  unfold recordOfParams
  rw [h.text keyNames (by decide), h.whole? ["ttlSeconds", "ttl"] (by decide),
    h.value? ["value"] (by decide)]

variable {σ : Type} [Cache.Store σ]

/-- An operation does the same for params that have the same in its fields. -/
theorem Operation.run_congr {op : Operation} (h : SameAt op.fields p q) (d : Desk)
    (r : Cache.Relay σ) (now : Int) (answer : Rpc.Answer) :
    op.run d r p now answer = op.run d r q now answer := by
  cases op with
  | rpcCallCached =>
    simp only [Operation.run, Action.rpcCallCached, callOfParams_congr h]
  | bridgeQuote => simp only [Operation.run, Action.bridgeQuote, bridgeOfParams_congr h]
  | swapQuote => simp only [Operation.run, Action.swapQuote, swapOfParams_congr h]
  | cachePut => simp only [Operation.run, Action.cachePut, recordOfParams_congr h]
  | cacheGet => simp only [Operation.run, Action.cacheGet, h.text keyNames (by decide)]
  | methodPolicy => simp only [Operation.run, Action.methodPolicy, h.text ["method"] (by decide)]
  | listActions => rfl

/-- Requests for one action come to the same when its operation does the same for the params of
both. -/
theorem Desk.run_of_operations {d : Desk} {r : Cache.Relay σ} {now : Int} {answer : Rpc.Answer}
    (h : ∀ op : Operation, op.run d r p now answer = op.run d r q now answer) (action : String)
    (bare bare' : Bool) :
    d.run r { action, params := .obj p.members, resultsOnly := bare } now answer =
      d.run r { action, params := .obj q.members, resultsOnly := bare' } now answer := by
  unfold Desk.run
  cases d.permit action with
  | error fault => rfl
  | ok e => exact h e.action

end Operations

end Action
end RelayDesk
