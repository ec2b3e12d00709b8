import RelayDesk.Cache.Store
import RelayDesk.Quote.Fault
import RelayDesk.Rpc.Failure

/-!
Why an action gave no result, with the class and the code that its envelope shows.
-/

namespace RelayDesk
namespace Action

inductive Invalid where
  | notObject (value : String)
  | missing (name : String)
  /-- Two spellings of one field with different values. -/
  | disagree (first second : String)
  | notString (name value : String)
  | notWhole (name value : String)
  | notBool (name value : String)
  | notNumber (name value : String)
  | notList (name value : String)
  | listEntry (name value : String)
  /-- Params of a call that are neither structured nor text. -/
  | callParamsType (name value : String)
  | callParamsText (name : String) (refusal : Json.Refusal)
  /-- An amount for the side of the swap that is not fixed. -/
  | amountOutOnInput
  | amountInOnOutput
  | quote (cause : Quote.Invalid)
  deriving DecidableEq, Repr

def Invalid.message : Invalid → String
  | .notObject value => "params must be a JSON object (got " ++ value ++ ")"
  | .missing name => name ++ " is required"
  | .disagree first second => first ++ " and " ++ second ++ " disagree"
  | .notString name value => name ++ " must be a string (got " ++ value ++ ")"
  | .notWhole name value => name ++ " must be a non-negative integer (got " ++ value ++ ")"
  | .notBool name value => name ++ " must be a boolean (got " ++ value ++ ")"
  | .notNumber name value => name ++ " must be a number (got " ++ value ++ ")"
  | .notList name value =>
    name ++ " must be a comma-separated string or an array (got " ++ value ++ ")"
  | .listEntry name value => name ++ " entries must be strings (got " ++ value ++ ")"
  | .callParamsType name value =>
    name ++ " must be an array, an object or JSON text (got " ++ value ++ ")"
  | .callParamsText name refusal => name ++ " is not valid JSON: " ++ refusal.message
  | .amountOutOnInput => "amountOut is only valid for exact_output swaps"
  | .amountInOnOutput => "amountIn is only valid for exact_input swaps"
  | .quote cause => cause.message

inductive Fault where
  | validation (cause : Invalid)
  | unsupported (cause : Quote.Unsupported)
  | noRoute (cause : Quote.NoRoute)
  | rpc (failure : Rpc.Failure)
  | store (fault : Cache.StoreFault)
  | unknownAction (name : String)
  | blocked (name : String)
  deriving DecidableEq, Repr

namespace Fault

def ofQuote : Quote.Fault → Fault
  | .validation cause => .validation (.quote cause)
  | .unsupported cause => .unsupported cause
  | .noRoute cause => .noRoute cause

def message : Fault → String
  | .validation cause => cause.message
  | .unsupported cause => cause.message
  | .noRoute cause => cause.message
  | .rpc failure => failure.text
  | .store fault => fault.message
  | .unknownAction name => "unknown action: " ++ name
  | .blocked name => "action " ++ name ++ " is blocked by configuration"

def code : Fault → Nat
  | .validation _ => 400
  | .blocked _ => 403
  | .unknownAction _ => 404
  | .noRoute _ => 404
  | .unsupported _ => 422
  | .rpc failure =>
    match failure.kind with
    | .rateLimited => 429
    | .unavailable => 503
    | _ => 502
  | .store _ => 500

def kind : Fault → String
  | .validation _ => "validation"
  | .unsupported _ => "unsupported"
  | .noRoute _ => "no_route"
  | .rpc failure => failure.kind.name
  | .store _ => "store"
  | .unknownAction _ => "unknown_action"
  | .blocked _ => "blocked"

end Fault
end Action
end RelayDesk
