import RelayDesk.Action.Fault
import RelayDesk.Json.Record

/-!
Requests for actions and the envelopes that answer them.
-/

namespace RelayDesk
namespace Action

open Json (Shape)

/-- The member of params that asks for the bare result. -/
def resultsOnlyKey : String := "resultsOnly"

structure Request where
  action : String
  params : Json
  resultsOnly : Bool
  deriving DecidableEq, Repr

namespace Request

/-- Is the bare result wanted?  Either the request or its params may say so. -/
def wantsResultsOnly (r : Request) : Bool :=
  r.resultsOnly || (r.params.member? resultsOnlyKey == some (.bool true))

def text (r : Request) : String :=
  Json.recordText
    [("action", .str r.action), ("params", r.params), ("resultsOnly", .bool r.resultsOnly)]

def shape : Shape Request where
  name := "ActionRequest"
  blank := { action := "", params := .null, resultsOnly := false }
  fields :=
    [.of "action" true (fun _ => Json.readText "a string") fun s r => { r with action := s },
     .of "params" false Json.readValue fun v r => { r with params := v },
     .of "resultsOnly" false (fun _ => Json.readBool) fun b r => { r with resultsOnly := b }]

def read (text : String) : Except Json.Refusal Request := shape.readText text

end Request

inductive Status where
  | ok
  | error
  | blocked
  deriving DecidableEq, Repr

namespace Status

def name : Status → String
  | .ok => "ok"
  | .error => "error"
  | .blocked => "blocked"

def variants : List (String × Status) :=
  [Status.ok, .error, .blocked].map fun s => (s.name, s)

end Status

structure Envelope where
  status : Status
  code : Nat
  result : Option Json
  reason : Option String
  kind : Option String
  deriving DecidableEq, Repr

namespace Envelope

def ofResult (result : Json) : Envelope :=
  { status := .ok, code := 200, result := some result, reason := none, kind := none }

/-- The envelope of a fault.  A blocked action has a status of its own. -/
def ofFault (f : Fault) : Envelope :=
  { status := match f with
      | .blocked _ => .blocked
      | _ => .error
    code := f.code, result := none, reason := some f.message, kind := some f.kind }

def of : Except Fault Json → Envelope
  | .ok result => ofResult result
  | .error f => ofFault f

def isOk (e : Envelope) : Bool := e.status == .ok

def members (e : Envelope) : List (String × Json) :=
  [("status", .str e.status.name), ("code", .ofNat e.code)] ++
    (e.result.map fun v => ("result", v)).toList ++
    (e.reason.map fun s => ("reason", .str s)).toList ++
    (e.kind.map fun s => ("kind", .str s)).toList

def text (e : Envelope) : String := Json.recordText e.members

/-- The value that the caller is given: the bare result of an action that succeeded, if that is
what was asked for, and the envelope otherwise. -/
def output (e : Envelope) (resultsOnly : Bool) : Json :=
  match e.status, e.result, resultsOnly with
  | .ok, some result, true => result
  | _, _, _ => Json.object e.members

def shape : Shape Envelope where
  name := "Envelope"
  blank := { status := .ok, code := 0, result := none, reason := none, kind := none }
  fields :=
    [.of "status" true (Json.readVariant Status.variants) fun s e => { e with status := s },
     .of "code" true (fun _ => Json.readInteger 0 65535 "u16") fun n e =>
       { e with code := n.toNat },
     .of "result" false (fun depth => Json.readOption (Json.readValue depth)) fun v e =>
       { e with result := v },
     .of "reason" false (fun _ => Json.readOption (Json.readText "a string")) fun s e =>
       { e with reason := s },
     .of "kind" false (fun _ => Json.readOption (Json.readText "a string")) fun s e =>
       { e with kind := s }]

def read (text : String) : Except Json.Refusal Envelope := shape.readText text

end Envelope
end Action
end RelayDesk
