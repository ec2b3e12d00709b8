import RelayDesk.Quote.Fault
import RelayDesk.Text.Basic
import RelayDesk.Text.Case

/-!
The choices of a quote: which side of a swap is fixed, and by what routes are ranked.  Spellings
are read without regard to case and to the characters that join words.
-/

namespace RelayDesk
namespace Quote

inductive TradeType where
  | exactInput
  | exactOutput
  deriving DecidableEq, Repr

inductive BridgeStrategy where
  /-- The larger output, then the shorter time. -/
  | bestOut
  /-- The shorter time, then the larger output. -/
  | fastest
  deriving DecidableEq, Repr

inductive SwapStrategy where
  /-- The better amount, then the lower fee, then the lower impact. -/
  | bestOut
  /-- The lower fee, then the lower impact, then the better amount. -/
  | lowestFee
  deriving DecidableEq, Repr

inductive QuoteSource where
  | table
  /-- The provider was filled in, as the only one for an exact output. -/
  | tableDefaultProvider
  deriving DecidableEq, Repr

/-- A spelling without the joining characters, folded. -/
def bareToken (joiners : List Char) (raw : String) : String :=
  Text.lower (String.ofList ((Text.trimChars raw.toList).filter fun c => !joiners.contains c))

def TradeType.name : TradeType → String
  | .exactInput => "exact_input"
  | .exactOutput => "exact_output"

def TradeType.ofText (raw : String) : Except Invalid TradeType :=
  let token := bareToken ['_', '-', ' '] raw
  if ["exactinput", "exactin", "sell"].contains token then .ok .exactInput
  else if ["exactoutput", "exactout", "buy"].contains token then .ok .exactOutput
  else .error (.tradeType raw)

def BridgeStrategy.name : BridgeStrategy → String
  | .bestOut => "bestOut"
  | .fastest => "fastest"

def BridgeStrategy.ofText (raw : String) : Except Invalid BridgeStrategy :=
  let token := bareToken ['_', '-'] raw
  if token = "bestout" || token = "" then .ok .bestOut
  else if token = "fastest" then .ok .fastest
  else .error (.bridgeStrategy raw)

def SwapStrategy.name : SwapStrategy → String
  | .bestOut => "bestOut"
  | .lowestFee => "lowestFee"

def SwapStrategy.ofText (raw : String) : Except Invalid SwapStrategy :=
  let token := bareToken ['_', '-'] raw
  if token = "bestout" || token = "" then .ok .bestOut
  else if token = "lowestfee" then .ok .lowestFee
  else .error (.swapStrategy raw)

def QuoteSource.name : QuoteSource → String
  | .table => "static_registry"
  | .tableDefaultProvider => "static_registry_default_provider"

end Quote
end RelayDesk
