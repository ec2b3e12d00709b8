import RelayDesk.Cache.Key
import RelayDesk.Cache.Store
import RelayDesk.Rpc.Reply
import RelayDesk.Rpc.Request

/-!
Calls to a node through the cache.  A fresh record answers without a request, unless every call is
to be refreshed.  Otherwise one request is sent: a result is kept and given back, and a failure
that passes may be bridged by a record that has not been expired for too long.
-/

namespace RelayDesk
namespace Cache

/-- Switches of the relay. -/
structure Config where
  /-- Send a request for every call. -/
  strictMode : Bool
  /-- May old answers stand in, where neither call nor policy forbids it? -/
  allowStaleFallback : Bool
  deriving DecidableEq, Repr

namespace Config

def default : Config := { strictMode := false, allowStaleFallback := true }

def shape : Json.Shape Config where
  name := "ExecutorConfig"
  blank := default
  fields :=
    [.of "strictMode" false (fun _ => Json.readBool) fun b c => { c with strictMode := b },
     .of "allowStaleFallback" false (fun _ => Json.readBool) fun b c =>
       { c with allowStaleFallback := b }]

def read (text : String) : Except Json.Refusal Config := shape.readText text

end Config

structure Call where
  url : String
  method : String
  params : Json
  cacheKey : Option String := none
  ttlSeconds : Option Nat := none
  maxStaleSeconds : Option Nat := none
  allowStaleFallback : Option Bool := none
  deriving DecidableEq, Repr

namespace Call

/-- The key that the call reads and writes: its own, trimmed, if that is not empty. -/
def key (c : Call) : String :=
  match c.cacheKey.map Text.trim with
  | some key => if key.isEmpty then keyOfValue c.url c.method c.params else key
  | none => keyOfValue c.url c.method c.params

/-- The policy of the call's method under the switches, with the call's overrides. -/
def policy (c : Call) (config : Config) : Rpc.Policy :=
  let base := Rpc.policyOf c.method
  { ttlSeconds := c.ttlSeconds.getD base.ttlSeconds
    maxStaleSeconds := c.maxStaleSeconds.getD base.maxStaleSeconds
    allowStaleFallback :=
      c.allowStaleFallback.getD (base.allowStaleFallback && config.allowStaleFallback) }

/-- The params that are sent: null stands for an empty list. -/
def sentParams (c : Call) : Json :=
  match c.params with
  | .null => .arr []
  | params => params

/-- The request that the call sends under an id. -/
def request (c : Call) (id : Nat) : Rpc.Request :=
  .numbered id (Rpc.wireMethod c.method) c.sentParams

end Call

inductive Source where
  | cacheHit
  | cacheRefresh
  | fresh
  | stale
  deriving DecidableEq, Repr

def Source.name : Source → String
  | .cacheHit => "cache_hit"
  | .cacheRefresh => "cache_refresh"
  | .fresh => "fresh"
  | .stale => "stale"

structure Outcome where
  source : Source
  result : String
  key : String
  deriving DecidableEq, Repr

def Outcome.toJson (o : Outcome) : Json :=
  Json.object
    [("source", .str o.source.name), ("result", .str o.result), ("cacheKey", .str o.key)]

/-- A request sent to the address of a node. -/
structure Post where
  url : String
  request : Rpc.Request
  deriving DecidableEq, Repr

/-- A store, the id of the next request, and the requests sent so far, the last one first. -/
structure Relay (σ : Type) where
  store : σ
  /-- It has no bound.  The ids are those of a counter of 64 bits as long as fewer than `2 ^ 64`
  requests are sent; after that such a counter begins anew, and this one does not. -/
  nextId : Nat
  sent : List Post

namespace Relay

variable {σ : Type} [Store σ]

def start (store : σ) : Relay σ := { store, nextId := 1, sent := [] }

/-- The record under a key and the result in it.  A store that fails and a record without a
result are as good as no record. -/
def load (r : Relay σ) (key : String) : Option (Record × String) :=
  match Store.get r.store key with
  | .ok (some record) => record.result?.map fun result => (record, result)
  | _ => none

def keptValue (result : String) (now : Int) : Json :=
  Json.object [("result", .str result), ("fetchedAtUnix", .ofInt now)]

/-- The relay with a record put into its store, or as it was if the store fails. -/
def keep (r : Relay σ) (record : Record) : Relay σ :=
  match Store.put r.store record with
  | .ok store => { r with store }
  | .error _ => r

/-- The relay after sending a request. -/
def post (r : Relay σ) (call : Call) : Relay σ :=
  { r with
    nextId := r.nextId + 1
    sent := { url := call.url, request := call.request r.nextId } :: r.sent }

/-- May the record stand in for the failure? -/
def bridges (policy : Rpc.Policy) (failure : Rpc.Failure) (record : Record) (now : Int) : Bool :=
  policy.allowStaleFallback && failure.isStaleEligible &&
    record.isWithinWindow now policy.maxStaleSeconds

/-- What the call gives once its request is answered, when `cached` was found before. -/
def settle (r : Relay σ) (config : Config) (call : Call) (cached : Option (Record × String))
    (now : Int) (answer : Rpc.Answer) : Except Rpc.Failure Outcome × Relay σ :=
  let policy := call.policy config
  match answer.result with
  | .ok result =>
    let record := Record.write call.key (keptValue result now) policy.ttlSeconds now
    let wasFresh := cached.any fun c => c.1.isFresh now
    (.ok { source := if wasFresh then .cacheRefresh else .fresh, result, key := call.key },
      r.keep record)
  | .error failure =>
    match cached with
    | some (record, result) =>
      if bridges policy failure record now then
        (.ok { source := .stale, result, key := call.key }, r)
      else (.error failure, r)
    | none => (.error failure, r)

/-- Carry out a call at `now`; `answer` is what comes of the request, if one is sent. -/
def execute (r : Relay σ) (config : Config) (call : Call) (now : Int) (answer : Rpc.Answer) :
    Except Rpc.Failure Outcome × Relay σ :=
  let cached := r.load call.key
  match cached with
  | some (record, result) =>
    if !config.strictMode && record.isFresh now then
      (.ok { source := .cacheHit, result, key := call.key }, r)
    else (r.post call).settle config call cached now answer
  | none => (r.post call).settle config call cached now answer

end Relay
end Cache
end RelayDesk
