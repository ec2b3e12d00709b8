import RelayDesk.Action.Dispatch

/-!
Sessions: a desk and its relay, and the steps that they take one after the other.  A step may be a
call, a request for an action, a direct write or read, or a change of the set-up.  Each step
reports its answer and the requests that it sent.
-/

namespace RelayDesk
namespace Action

open Cache (Relay Store)

inductive Step where
  | call (call : Cache.Call) (now : Int) (answer : Rpc.Answer)
  | dispatch (request : Request) (now : Int) (answer : Rpc.Answer)
  | put (key : String) (value : Json) (ttlSeconds : Nat) (now : Int)
  | get (key : String) (now : Int)
  | configure (config : Cache.Config) (blocked : List String)
  deriving DecidableEq, Repr

inductive StepAnswer where
  | called (result : Except Rpc.Failure Cache.Outcome)
  | dispatched (output : Json)
  | put (result : Except Cache.StoreFault Cache.Record)
  | got (result : Except Cache.StoreFault (Option Cache.Record × Cache.LookupStatus))
  | configured (config : Cache.Config)
  deriving Repr

structure Report where
  answer : StepAnswer
  /-- The requests that the step sent, in their order. -/
  sent : List Cache.Post
  deriving Repr

structure Session (σ : Type) where
  desk : Desk
  relay : Relay σ

namespace Session

variable {σ : Type} [Store σ]

/-- A session over a store, before its first step. -/
def start (desk : Desk) (store : σ) : Session σ := { desk, relay := .start store }

/-- A change of the set-up keeps the store and the tables; ids of requests start again. -/
def configure (s : Session σ) (config : Cache.Config) (blocked : List String) : Session σ :=
  { desk := { s.desk with config, blocked }, relay := .start s.relay.store }

def perform (s : Session σ) : Step → StepAnswer × Session σ
  | .call call now answer =>
    let (result, relay) := s.relay.execute s.desk.config call now answer
    (.called result, { s with relay })
  | .dispatch request now answer =>
    let (output, relay) := s.desk.dispatch s.relay request now answer
    (.dispatched output, { s with relay })
  | .put key value ttlSeconds now =>
    let record := Cache.Record.write key value ttlSeconds now
    match Store.put s.relay.store record with
    | .ok store => (.put (.ok record), { s with relay := { s.relay with store } })
    | .error fault => (.put (.error fault), s)
  | .get key now =>
    let found := Store.get s.relay.store key
    (.got (found.map fun record? => (record?, .of record? now)), s)
  | .configure config blocked => (.configured config, s.configure config blocked)

/-- A step from a clean record of requests, with the report of it. -/
def step (s : Session σ) (step : Step) : Report × Session σ :=
  let (answer, s) := { s with relay := { s.relay with sent := [] } : Session σ }.perform step
  ({ answer, sent := s.relay.sent.reverse }, s)

def run (s : Session σ) : List Step → List Report × Session σ
  | [] => ([], s)
  | first :: rest =>
    let (report, s) := s.step first
    let (reports, s) := run s rest
    (report :: reports, s)

end Session
end Action
end RelayDesk
