import RelayDesk.Json.Fault
import RelayDesk.Text.Case

/-!
Failures of a call to a node, each by its cause.  The kind of a failure is computed from the
cause: an HTTP status speaks for itself, and an error that the node returned is judged by its code
and then by the words of its message.
-/

namespace RelayDesk
namespace Rpc

inductive FailureKind where
  | requestFailed
  | badHttpStatus
  | rateLimited
  | unavailable
  | invalidResponse
  | invalidObject
  | returnedError
  | missingResult
  | invalidResultType
  deriving DecidableEq, Repr

namespace FailureKind

def name : FailureKind → String
  | .requestFailed => "request_failed"
  | .badHttpStatus => "bad_http_status"
  | .rateLimited => "rate_limited"
  | .unavailable => "unavailable"
  | .invalidResponse => "invalid_response"
  | .invalidObject => "invalid_object"
  | .returnedError => "returned_error"
  | .missingResult => "missing_result"
  | .invalidResultType => "invalid_result_type"

/-- Only a condition that passes may be bridged by an old answer. -/
def isStaleEligible : FailureKind → Bool
  | .rateLimited | .unavailable => true
  | _ => false

theorem isStaleEligible_iff {kind : FailureKind} :
    kind.isStaleEligible = true ↔ kind = .rateLimited ∨ kind = .unavailable := by
  cases kind <;> decide

/-- The kind of an HTTP status; 200 is no failure. -/
def ofStatus? (status : Nat) : Option FailureKind :=
  if status = 200 then none
  else if status = 429 then some .rateLimited
  else if status ≥ 500 then some .unavailable
  else some .badHttpStatus

def rateLimitCodes : List Int := [429, -32005]

def unavailableCodes : List Int := [-32000, -32004]

def rateLimitPhrases : List String := ["rate limit", "too many"]

def unavailablePhrases : List String :=
  ["temporarily unavailable", "service unavailable", "timeout"]

/-- The kind of an error by the words of its message. -/
def ofMessage (message : String) : FailureKind :=
  let lowered := Text.lower message
  if rateLimitPhrases.any (Text.contains lowered) then .rateLimited
  else if unavailablePhrases.any (Text.contains lowered) then .unavailable
  else .returnedError

/-- The kind of an error that a node returned.  A listed code outweighs every phrase. -/
def ofNodeError (code : Option Int) (message : String) : FailureKind :=
  match code with
  | some c =>
    if rateLimitCodes.contains c then .rateLimited
    else if unavailableCodes.contains c then .unavailable
    else ofMessage message
  | none => ofMessage message

end FailureKind

inductive Failure where
  | transport (message : String)
  /-- A reply with a status other than 200, and the beginning of its body. -/
  | status (code : Nat) (kind : FailureKind) (excerpt : String)
  | notJson (refusal : Json.Refusal)
  | notObject (excerpt : String)
  /-- An error that the node returned. -/
  | node (code : Option Int) (message : String)
  | noResult
  | resultType (typeName : String)
  deriving DecidableEq, Repr

namespace Failure

def kind : Failure → FailureKind
  | .transport _ => .requestFailed
  | .status _ kind _ => kind
  | .notJson _ => .invalidResponse
  | .notObject _ => .invalidObject
  | .node code message => .ofNodeError code message
  | .noResult => .missingResult
  | .resultType _ => .invalidResultType

def message : Failure → String
  | .transport message => message
  | .status code _ excerpt => "HTTP " ++ String.ofList (Text.decimal code) ++ ": " ++ excerpt
  | .notJson refusal => "body is not JSON: " ++ refusal.message
  | .notObject excerpt => "body is not a JSON object: " ++ excerpt
  | .node (some code) message =>
    "RPC error " ++ String.ofList (Text.decimalInt code) ++ ": " ++ message
  | .node none message => "RPC error: " ++ message
  | .noResult => "response has no result"
  | .resultType typeName => "result is not a string: " ++ typeName

def httpStatus : Failure → Option Nat
  | .transport _ => none
  | .status code _ _ => some code
  | _ => some 200

def rpcCode : Failure → Option Int
  | .node code _ => code
  | _ => none

def isStaleEligible (f : Failure) : Bool := f.kind.isStaleEligible

/-- Kind and message in one line. -/
def text (f : Failure) : String := f.kind.name ++ ": " ++ f.message

end Failure
end Rpc
end RelayDesk
