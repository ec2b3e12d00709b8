import RelayDesk.Text.Basic
import RelayDesk.Text.Quoted

/-!
Why a quote is refused.  A validation fault is a field that does not make sense by itself, an
unsupported request one that no provider could serve, and a request without a route one that no
row of the tables serves.
-/

namespace RelayDesk
namespace Quote

/-- The product that went past 256 bits. -/
inductive Product where
  | amountByBps
  | outputByScale
  deriving DecidableEq, Repr

def Product.description : Product → String
  | .amountByBps => "amount * bps"
  | .outputByScale => "amountOut * 1e8"

inductive NoRoute where
  /-- The provider asked for has no row among the rows of the route. -/
  | provider (name : String) (total : Nat)
  | noRows
  | noneEligible (total : Nat)
  deriving DecidableEq, Repr

def NoRoute.message : NoRoute → String
  | .provider name total =>
    "provider " ++ Text.quoted name ++ " has no eligible quote (" ++
      String.ofList (Text.decimal total) ++ " candidates on route)"
  | .noRows => "no provider serves this route"
  | .noneEligible total =>
    "none of " ++ String.ofList (Text.decimal total) ++ " candidates is eligible"

inductive Unsupported where
  | chain (given : String)
  | provider (given : String)
  | providerList
  deriving DecidableEq, Repr

/-- The one provider of swaps with an exact output. -/
def exactOutputProvider : String := "uniswap"

def Unsupported.message : Unsupported → String
  | .chain given =>
    "exact_output swaps require an eip155 chain (got " ++ Text.quoted given ++ ")"
  | .provider given =>
    "exact_output swaps are only supported by " ++ exactOutputProvider ++ " (got " ++
      Text.quoted given ++ ")"
  | .providerList =>
    "exact_output swaps are only supported by " ++ exactOutputProvider ++
      "; providers list excludes it"

inductive Invalid where
  | missing (field : String)
  /-- The text of an amount is not one of digits. -/
  | amountText (field raw : String)
  /-- A number that is not a natural number of 64 bits. -/
  | amountNumber (field number : String)
  /-- A value that is neither text nor number. -/
  | amountType (field value : String)
  | amountSize (field : String)
  | overflow (product : Product)
  | tradeType (raw : String)
  | bridgeStrategy (raw : String)
  | swapStrategy (raw : String)
  | slippageRange (value : String)
  | slippageProvider
  deriving DecidableEq, Repr

def Invalid.message : Invalid → String
  | .missing field => field ++ " is required"
  | .amountText field raw =>
    field ++ " must be a non-negative integer (got " ++ Text.quoted raw ++ ")"
  | .amountNumber field number =>
    field ++ " must be a non-negative integer; pass large amounts as strings (got " ++
      number ++ ")"
  | .amountType field value =>
    field ++ " must be an integer string or number (got " ++ value ++ ")"
  | .amountSize field =>
    field ++ " does not fit in 256 bits: the value is too large to fit the target type"
  | .overflow product => "amount too large: " ++ product.description ++ " overflows 256 bits"
  | .tradeType raw => "type must be exact_input or exact_output (got " ++ Text.quoted raw ++ ")"
  | .bridgeStrategy raw =>
    "bridge strategy must be bestOut or fastest (got " ++ Text.quoted raw ++ ")"
  | .swapStrategy raw =>
    "swap strategy must be bestOut or lowestFee (got " ++ Text.quoted raw ++ ")"
  | .slippageRange value => "slippagePct must be in (0, 100] (got " ++ value ++ ")"
  | .slippageProvider =>
    "slippagePct is only accepted with provider=" ++ exactOutputProvider

inductive Fault where
  | validation (cause : Invalid)
  | unsupported (cause : Unsupported)
  | noRoute (cause : NoRoute)
  deriving DecidableEq, Repr

namespace Fault

def kind : Fault → String
  | .validation _ => "validation"
  | .unsupported _ => "unsupported"
  | .noRoute _ => "no_route"

def message : Fault → String
  | .validation cause => cause.message
  | .unsupported cause => cause.message
  | .noRoute cause => cause.message

/-- The cause behind the name of its class. -/
def text (f : Fault) : String :=
  match f with
  | .validation cause => "invalid request: " ++ cause.message
  | .unsupported cause => "unsupported: " ++ cause.message
  | .noRoute cause => "no route: " ++ cause.message

end Fault
end Quote
end RelayDesk
