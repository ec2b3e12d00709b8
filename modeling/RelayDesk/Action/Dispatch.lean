import RelayDesk.Action.CallForm
import RelayDesk.Action.Envelope
import RelayDesk.Action.QuoteForm
import RelayDesk.Action.Registry

/-!
Actions and their dispatch.  An action is found by either of its keys, refused when it is blocked,
and then run on its params.  Only a cached call sends requests, and only a cached call and a put
write to the store.
-/

namespace RelayDesk
namespace Action

open Cache (Relay Store)

inductive Operation where
  | rpcCallCached
  | bridgeQuote
  | swapQuote
  | cachePut
  | cacheGet
  | methodPolicy
  | listActions
  deriving DecidableEq, Repr

def builtin : Registry Operation where
  entries :=
    [⟨"rpcCallCached", "rpc_call_cached", .rpcCallCached⟩,
     ⟨"bridgeQuote", "bridge_quote", .bridgeQuote⟩,
     ⟨"swapQuote", "swap_quote", .swapQuote⟩,
     ⟨"cachePut", "cache_put", .cachePut⟩,
     ⟨"cacheGet", "cache_get", .cacheGet⟩,
     ⟨"methodPolicy", "method_policy", .methodPolicy⟩,
     ⟨"listActions", "list_actions", .listActions⟩]

structure Desk where
  config : Cache.Config
  tables : Quote.Tables
  /-- Actions that are refused, by either key. -/
  blocked : List String
  deriving DecidableEq, Repr

/-- Is the entry blocked?  Blanks around a blocked key do not matter, and a blank one blocks
nothing. -/
def Desk.blocks (d : Desk) (e : Entry Operation) : Bool :=
  d.blocked.any fun b =>
    let key := Text.trim b
    !key.isEmpty && (key == e.name || key == e.remoteKey)

def policyJson (p : Rpc.Policy) : Json :=
  Json.object
    [("ttlSeconds", .ofNat p.ttlSeconds), ("maxStaleSeconds", .ofNat p.maxStaleSeconds),
     ("allowStaleFallback", .bool p.allowStaleFallback)]

def methodPolicy (p : Params) : Except Invalid Json := do
  let method ← p.text ["method"]
  return Json.object
    [("method", .str (Rpc.canonicalMethod method)),
     ("wireMethod", .str (Rpc.wireMethod method)),
     ("known", .bool (Rpc.isKnownMethod method)),
     ("policy", policyJson (Rpc.policyOf method))]

def listActions : Json :=
  Json.object [("actions", .arr (builtin.catalog.map Json.object))]

def bridgeQuote (tables : Quote.Tables) (p : Params) : Except Fault Json := do
  let request ← (bridgeOfParams p).mapError .validation
  let quote ← (Quote.quoteBridge tables request).mapError .ofQuote
  return Json.object quote.members

def swapQuote (tables : Quote.Tables) (p : Params) : Except Fault Json := do
  let request ← (swapOfParams p).mapError .validation
  let quote ← (Quote.quoteSwap tables request).mapError .ofQuote
  return Json.object quote.members

/-- The spellings of the key of a direct read or write. -/
def keyNames : List String := ["key", "cacheKey"]

/-- The record that a direct write is asked to put. -/
def recordOfParams (p : Params) (now : Int) : Except Invalid Cache.Record := do
  let key ← p.text keyNames
  match ← p.whole? ["ttlSeconds", "ttl"] with
  | none => .error (.missing "ttlSeconds")
  | some ttl =>
    match ← p.value? ["value"] with
    | none => .error (.missing "value")
    | some value => return .write key value ttl now

/-- The one key that an operation may read or write, if it has one. -/
def Operation.key? (op : Operation) (p : Params) : Option String :=
  match op with
  | .rpcCallCached => (callOfParams p).toOption.map Cache.Call.key
  | .cachePut | .cacheGet => (p.text keyNames).toOption
  | _ => none

/-- The members that answer a direct read. -/
def lookupMembers (key : String) (record? : Option Cache.Record) (now : Int) :
    List (String × Json) :=
  [("key", .str key), ("status", .str (Cache.LookupStatus.of record? now).name)] ++
  match record? with
  | some r => [("value", r.value), ("expiresAtUnix", .ofInt r.expiresAt)]
  | none => []

/-- The entry that a request asks for, if it may be run. -/
def Desk.permit (d : Desk) (action : String) : Except Fault (Entry Operation) :=
  match builtin.find? action with
  | none => .error (.unknownAction (Text.trim action))
  | some e => if d.blocks e then .error (.blocked e.name) else .ok e

/-- The one key that a request may read or write, if it has one. -/
def Desk.key? (d : Desk) (request : Request) : Option String := do
  let e ← (d.permit request.action).toOption
  let params ← (Params.ofJson request.params).toOption
  e.action.key? params

section Effects

variable {σ : Type} [Store σ]

def cachePut (r : Relay σ) (p : Params) (now : Int) : Except Fault Json × Relay σ :=
  match recordOfParams p now with
  | .error cause => (.error (.validation cause), r)
  | .ok record =>
    match Store.put r.store record with
    | .error fault => (.error (.store fault), r)
    | .ok store =>
      (.ok (Json.object
        [("key", .str record.key), ("expiresAtUnix", .ofInt record.expiresAt)]),
       { r with store })

def cacheGet (r : Relay σ) (p : Params) (now : Int) : Except Fault Json := do
  let key ← (p.text keyNames).mapError .validation
  let record? ← (Store.get r.store key).mapError .store
  return Json.object (lookupMembers key record? now)

def rpcCallCached (r : Relay σ) (config : Cache.Config) (p : Params) (now : Int)
    (answer : Rpc.Answer) : Except Fault Json × Relay σ :=
  match callOfParams p with
  | .error cause => (.error (.validation cause), r)
  | .ok call =>
    match r.execute config call now answer with
    | (.ok outcome, r) => (.ok outcome.toJson, r)
    | (.error failure, r) => (.error (.rpc failure), r)

/-- Run an operation at `now`; `answer` is what comes of the request, if it sends one. -/
def Operation.run (op : Operation) (d : Desk) (r : Relay σ) (p : Params) (now : Int)
    (answer : Rpc.Answer) : Except Fault Json × Relay σ :=
  match op with
  | .rpcCallCached => Action.rpcCallCached r d.config p now answer
  | .bridgeQuote => (Action.bridgeQuote d.tables p, r)
  | .swapQuote => (Action.swapQuote d.tables p, r)
  | .cachePut => Action.cachePut r p now
  | .cacheGet => (Action.cacheGet r p now, r)
  | .methodPolicy => ((Action.methodPolicy p).mapError .validation, r)
  | .listActions => (.ok Action.listActions, r)

def Desk.run (d : Desk) (r : Relay σ) (request : Request) (now : Int) (answer : Rpc.Answer) :
    Except Fault Json × Relay σ :=
  match d.permit request.action with
  | .error fault => (.error fault, r)
  | .ok e =>
    match Params.ofJson request.params with
    | .error cause => (.error (.validation cause), r)
    | .ok params => e.action.run d r params now answer

def Desk.answer (d : Desk) (r : Relay σ) (request : Request) (now : Int) (answer : Rpc.Answer) :
    Envelope × Relay σ :=
  let (result, r) := d.run r request now answer
  (.of result, r)

/-- Run a request and shape the envelope as the request wants it. -/
def Desk.dispatch (d : Desk) (r : Relay σ) (request : Request) (now : Int)
    (answer : Rpc.Answer) : Json × Relay σ :=
  let (envelope, r) := d.answer r request now answer
  (envelope.output request.wantsResultsOnly, r)

end Effects
end Action
end RelayDesk
