import RelayDesk.Json.Record

/-!
Requests on the wire.  A request's id is a natural number of 64 bits, a string or null; the
number seven and the string `"7"` are different ids.
-/

namespace RelayDesk
namespace Rpc

open Json (Cursor Field Shape)

inductive RequestId where
  | number (n : Nat)
  | string (s : String)
  | null
  deriving DecidableEq, Repr

namespace RequestId

def toJson : RequestId → Json
  | .number n => .ofNat n
  | .string s => .str s
  | .null => .null

def display : RequestId → String
  | .number n => String.ofList (Text.decimal n)
  | .string s => s
  | .null => "null"

/-- The id that a value denotes, or why it denotes none. -/
def ofJson : Json → Except String RequestId
  | .null => .ok .null
  | .str s => .ok (.string s)
  | .num text =>
    match Number.unsigned? text.toList with
    | some n => .ok (.number n)
    | none => .error ("id must be a non-negative integer (got " ++ text ++ ")")
  | other => .error ("invalid JSON-RPC id: " ++ other.text)

/-- The id as a field of a record.  A value that is no id is a fault of the record, placed where
the record ends. -/
def read (depth : Nat) (cur : Cursor) : Except Json.Objection (RequestId × Cursor) := do
  let (v, cur) ← Json.placedReading (Json.readValue depth cur)
  match ofJson v with
  | .ok id => return (id, cur)
  | .error reason => .error (.pending (.rejected reason) cur)

end RequestId

structure Request where
  jsonrpc : String
  method : String
  params : Json
  id : RequestId
  deriving DecidableEq, Repr

namespace Request

/-- A request of the protocol's second version with a numbered id. -/
def numbered (id : Nat) (method : String) (params : Json) : Request :=
  { jsonrpc := "2.0", method, params, id := .number id }

def text (r : Request) : String :=
  Json.recordText
    [("jsonrpc", .str r.jsonrpc), ("method", .str r.method), ("params", r.params),
     ("id", r.id.toJson)]

def shape : Shape Request where
  name := "JsonRpcRequest"
  blank := { jsonrpc := "", method := "", params := .null, id := .null }
  fields :=
    [.of "jsonrpc" true (fun _ => Json.readText "a string") fun s r => { r with jsonrpc := s },
     .of "method" true (fun _ => Json.readText "a string") fun s r => { r with method := s },
     .of "params" true Json.readValue fun v r => { r with params := v },
     { name := "id"
       required := true
       read := fun depth cur => do
         let (id, cur) ← RequestId.read depth cur
         return (fun r => { r with id }, cur) }]

def read (text : String) : Except Json.Refusal Request := shape.readText text

end Request
end Rpc
end RelayDesk
