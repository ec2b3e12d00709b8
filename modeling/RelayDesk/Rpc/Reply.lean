import RelayDesk.Json.Reader
import RelayDesk.Rpc.Failure
import RelayDesk.Text.Basic
import RelayDesk.Text.Bytes

/-!
Replies of a node.  The status is judged before the body, a returned error before the result, and
a result must be a string.
-/

namespace RelayDesk
namespace Rpc

structure Reply where
  status : Nat
  body : String
  deriving DecidableEq, Repr

/-- A good reply that carries a result. -/
def Reply.okResult (result : String) : Reply :=
  { status := 200
    body := Json.text (Json.object
      [("jsonrpc", .str "2.0"), ("id", .ofNat 1), ("result", .str result)]) }

/-- How many bytes of a body a message shows. -/
def excerptLimit : Nat := 200

/-- The beginning of a body: trimmed, and cut before the character that goes past the limit. -/
def excerpt (body : String) : String :=
  Text.cut excerptLimit (Text.trim body)

/-- A member as an integer of 64 bits. -/
def integerMember? (name : String) (members : List (String × Json)) : Option Int :=
  match Keyed.find? name members with
  | some (.num text) => Number.signed? text.toList
  | _ => none

/-- A member that is a string, or nothing. -/
def stringMember (name : String) (members : List (String × Json)) : String :=
  match Keyed.find? name members with
  | some (.str s) => s
  | _ => ""

/-- The error that a reply's object returns.  Null stands for no error. -/
def returnedError? (members : List (String × Json)) : Option Failure :=
  match Keyed.find? "error" members with
  | none => none
  | some .null => none
  | some (.obj error) =>
    some (.node (integerMember? "code" error) (stringMember "message" error))
  | some (.str message) => some (.node none message)
  | some other => some (.node none other.text)

/-- The result in a reply's object. -/
def resultOfMembers (members : List (String × Json)) : Except Failure String :=
  match returnedError? members with
  | some failure => .error failure
  | none =>
    match Keyed.find? "result" members with
    | none => .error .noResult
    | some (.str result) => .ok result
    | some other => .error (.resultType other.typeName)

/-- The result that a reply carries, or why it carries none. -/
def Reply.result (r : Reply) : Except Failure String :=
  match FailureKind.ofStatus? r.status with
  | some kind => .error (.status r.status kind (excerpt r.body))
  | none =>
    match Json.read r.body with
    | .error refusal => .error (.notJson refusal)
    | .ok (.obj members) => resultOfMembers members
    | .ok _ => .error (.notObject (excerpt r.body))

inductive Answer where
  | reply (reply : Reply)
  | failure (message : String)
  deriving DecidableEq, Repr

def Answer.result : Answer → Except Failure String
  | .reply r => r.result
  | .failure message => .error (.transport message)

end Rpc
end RelayDesk
