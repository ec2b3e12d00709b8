import RelayDesk.Quote.Amount
import RelayDesk.Quote.Row

/-!
Choosing a row.  The rows that the constraint keeps are priced, and the first of the best ones is
taken.  Rows are compared by a list of numbers, the smaller the better, so an amount that should
be large enters with its sign changed.
-/

namespace RelayDesk
namespace Quote

/-- A row with what goes in and what comes out. -/
structure Priced (ρ : Type) where
  row : ρ
  input : Amount
  output : Amount
  deriving DecidableEq, Repr

/-- The first of the elements with the least key. -/
def firstLeast {α : Type} (key : α → List Int) : List α → Option α
  | [] => none
  | x :: rest =>
    match firstLeast key rest with
    | none => some x
    | some y => if key y < key x then some y else some x

/-- Why none of the rows of a route was taken. -/
def noRoute (total : Nat) (c : Constraint) : NoRoute :=
  match c.exact with
  | some name => .provider name total
  | none => if total = 0 then .noRows else .noneEligible total

/-- The first of the best priced rows, of a route with `total` rows. -/
def pick {ρ : Type} (key : Priced ρ → List Int) (total : Nat) (c : Constraint)
    (priced : List (Priced ρ)) : Except Fault (Priced ρ) :=
  match firstLeast key priced with
  | some p => .ok p
  | none => .error (.noRoute (noRoute total c))

def priceBridge (amount : Amount) (row : BridgeRow) : Except Invalid (Priced BridgeRow) := do
  let output ← bridgeOutput amount row.feeBps
  return { row, input := amount, output }

def bridgeKey (strategy : BridgeStrategy) (p : Priced BridgeRow) : List Int :=
  match strategy with
  | .bestOut => [-(p.output.val : Int), p.row.etaSeconds]
  | .fastest => [(p.row.etaSeconds : Int), -(p.output.val : Int)]

/-- The best bridge row for the amount.  A row that cannot be priced ends the search. -/
def selectBridge (rows : List BridgeRow) (amount : Amount) (c : Constraint)
    (strategy : BridgeStrategy) : Except Fault (Priced BridgeRow) := do
  let priced ← ((c.keep rows).mapM (priceBridge amount)).mapError Fault.validation
  pick (bridgeKey strategy) rows.length c priced

/-- A swap row with its economics, or nothing when no input is enough.  The amount is the input
or the output, as the trade fixes it. -/
def priceSwap (amount : Amount) (tradeType : TradeType) (row : SwapRow) :
    Except Invalid (Option (Priced SwapRow)) :=
  match tradeType with
  | .exactInput => do
    let output ← swapOutput amount row.feeBps row.impactBps
    return some { row, input := amount, output }
  | .exactOutput => do
    let input ← swapInput amount row.feeBps row.impactBps
    return input.map fun input => { row, input, output := amount }

/-- What a swap is ranked by where the amount decides: a large output, or a small input. -/
def amountKey (tradeType : TradeType) (p : Priced SwapRow) : Int :=
  match tradeType with
  | .exactInput => -(p.output.val : Int)
  | .exactOutput => p.input.val

def swapKey (strategy : SwapStrategy) (tradeType : TradeType) (p : Priced SwapRow) : List Int :=
  match strategy with
  | .bestOut => [amountKey tradeType p, p.row.feeBps, p.row.impactBps]
  | .lowestFee => [(p.row.feeBps : Int), p.row.impactBps, amountKey tradeType p]

def selectSwap (rows : List SwapRow) (amount : Amount) (tradeType : TradeType) (c : Constraint)
    (strategy : SwapStrategy) : Except Fault (Priced SwapRow) := do
  let priced ← ((c.keep rows).mapM (priceSwap amount tradeType)).mapError Fault.validation
  pick (swapKey strategy tradeType) rows.length c (priced.filterMap id)

end Quote
end RelayDesk
