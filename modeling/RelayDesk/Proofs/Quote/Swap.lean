import RelayDesk.Proofs.Quote.Pricing
import RelayDesk.Proofs.Quote.Selection

/-!
The choice of a swap row.  The rows that can serve the trade are priced exactly, one that does not
fit refuses them all, and otherwise the first best one is taken: the strategy says whether the
amount or the fee decides first, and the trade which amount is open and which way is better.
-/

namespace RelayDesk
namespace Quote

namespace SwapRow

/-- Can the row serve the trade?  A fee or an impact that takes the whole leaves no exact output. -/
def canServe (row : SwapRow) : TradeType → Bool
  | .exactInput => true
  | .exactOutput => row.feeBps < 10000 && row.impactBps < 10000

/-- Does a product go past 256 bits where the row is priced? -/
def Overflows (row : SwapRow) (amount : Nat) : TradeType → Prop
  | .exactInput =>
    2 ^ 256 ≤ amount * row.feeBps ∨ 2 ^ 256 ≤ restAfter amount row.feeBps * row.impactBps
  | .exactOutput => 2 ^ 256 ≤ amount * 10 ^ 8

/-- What goes into a swap over the row. -/
def input (row : SwapRow) (amount : Nat) : TradeType → Nat
  | .exactInput => amount
  | .exactOutput => neededInput amount row.feeBps row.impactBps

/-- What comes out of a swap over the row. -/
def output (row : SwapRow) (amount : Nat) : TradeType → Nat
  | .exactInput => restAfter (restAfter amount row.feeBps) row.impactBps
  | .exactOutput => amount

/-- The row has the larger output, or the smaller input where the output is fixed. -/
def HasBetterAmount (tradeType : TradeType) (amount : Nat) (a b : SwapRow) : Prop :=
  match tradeType with
  | .exactInput => b.output amount .exactInput < a.output amount .exactInput
  | .exactOutput => a.input amount .exactOutput < b.input amount .exactOutput

/-- Neither row has the better amount. -/
def HasSameAmount (tradeType : TradeType) (amount : Nat) (a b : SwapRow) : Prop :=
  match tradeType with
  | .exactInput => a.output amount .exactInput = b.output amount .exactInput
  | .exactOutput => a.input amount .exactOutput = b.input amount .exactOutput

end SwapRow

/-- Is one row better than another for an amount? -/
def SwapStrategy.Prefers (strategy : SwapStrategy) (tradeType : TradeType) (amount : Nat)
    (a b : SwapRow) : Prop :=
  match strategy with
  | .bestOut =>
    a.HasBetterAmount tradeType amount b ∨ a.HasSameAmount tradeType amount b ∧
      (a.feeBps < b.feeBps ∨ a.feeBps = b.feeBps ∧ a.impactBps < b.impactBps)
  | .lowestFee =>
    a.feeBps < b.feeBps ∨ a.feeBps = b.feeBps ∧
      (a.impactBps < b.impactBps ∨
        a.impactBps = b.impactBps ∧ a.HasBetterAmount tradeType amount b)

/-- The rows that a constraint keeps and that can serve the trade, in their order. -/
def usableRows (c : Constraint) (tradeType : TradeType) (rows : List SwapRow) : List SwapRow :=
  (c.keep rows).filter (·.canServe tradeType)

/-! ## Prices -/

/-- Is a priced row at its own price for the amount? -/
structure IsSwapPrice (amount : Amount) (tradeType : TradeType) (p : Priced SwapRow) : Prop where
  input_eq : p.input.val = p.row.input amount.val tradeType
  output_eq : p.output.val = p.row.output amount.val tradeType

section Prices

variable {amount : Amount} {tradeType : TradeType} {row : SwapRow} {p q : Priced SwapRow}

theorem priceSwap_exactInput_cases (amount : Amount) (row : SwapRow) :
    (row.Overflows amount.val .exactInput ∧
        ∃ cause, priceSwap amount .exactInput row = .error cause) ∨
      (¬ row.Overflows amount.val .exactInput ∧
        ∃ p, priceSwap amount .exactInput row = .ok (some p) ∧ p.row = row ∧
          IsSwapPrice amount .exactInput p) := by
  unfold priceSwap
  by_cases hover : row.Overflows amount.val .exactInput
  · refine .inl ⟨hover, .overflow .amountByBps, ?_⟩
    rw [swapOutput_of_le hover]
    rfl
  · refine .inr ⟨hover, ?_⟩
    obtain ⟨hfee, himpact⟩ := not_or.mp hover
    obtain ⟨output, houtput, hval⟩ :=
      swapOutput_of_lt (Nat.lt_of_not_le hfee) (Nat.lt_of_not_le himpact)
    refine ⟨⟨row, amount, output⟩, ?_, rfl, rfl, hval⟩
    rw [houtput]
    rfl

theorem priceSwap_exactOutput_cases (amount : Amount) (row : SwapRow) :
    (row.canServe .exactOutput = false ∧ priceSwap amount .exactOutput row = .ok none) ∨
      (row.canServe .exactOutput = true ∧
        ((row.Overflows amount.val .exactOutput ∧
            ∃ cause, priceSwap amount .exactOutput row = .error cause) ∨
          (¬ row.Overflows amount.val .exactOutput ∧
            ∃ p, priceSwap amount .exactOutput row = .ok (some p) ∧ p.row = row ∧
              IsSwapPrice amount .exactOutput p))) := by
  unfold priceSwap
  by_cases hserves : row.feeBps < 10000 ∧ row.impactBps < 10000
  · refine .inr ⟨by simpa [SwapRow.canServe] using hserves, ?_⟩
    obtain ⟨hfee, himpact⟩ := hserves
    by_cases hover : row.Overflows amount.val .exactOutput
    · refine .inl ⟨hover, .overflow .outputByScale, ?_⟩
      rw [swapInput_of_le hfee himpact hover]
      rfl
    · refine .inr ⟨hover, ?_⟩
      obtain ⟨input, hinput, hval⟩ := swapInput_of_lt hfee himpact (Nat.lt_of_not_le hover)
      refine ⟨⟨row, input, amount⟩, ?_, rfl, hval, rfl⟩
      rw [hinput]
      rfl
  · refine .inl ⟨?_, ?_⟩
    · rw [← Bool.not_eq_true]
      simpa [SwapRow.canServe] using hserves
    · rw [swapInput_of_whole hserves]
      rfl

/-- A row is passed over, or refused, or priced. -/
theorem priceSwap_cases (amount : Amount) (tradeType : TradeType) (row : SwapRow) :
    (row.canServe tradeType = false ∧ priceSwap amount tradeType row = .ok none) ∨
      (row.canServe tradeType = true ∧
        ((row.Overflows amount.val tradeType ∧
            ∃ cause, priceSwap amount tradeType row = .error cause) ∨
          (¬ row.Overflows amount.val tradeType ∧
            ∃ p, priceSwap amount tradeType row = .ok (some p) ∧ p.row = row ∧
              IsSwapPrice amount tradeType p))) := by
  cases tradeType with
  | exactInput => exact .inr ⟨rfl, priceSwap_exactInput_cases amount row⟩
  | exactOutput => exact priceSwap_exactOutput_cases amount row

theorem priceSwap_refused_iff :
    (∃ cause, priceSwap amount tradeType row = .error cause) ↔
      row.canServe tradeType = true ∧ row.Overflows amount.val tradeType := by
  rcases priceSwap_cases amount tradeType row with
    ⟨hserves, hnone⟩ | ⟨hserves, ⟨hover, hrefused⟩ | ⟨hfits, p, hp, -⟩⟩
  · simp [hserves, hnone]
  · simp [hserves, hover, hrefused]
  · simp [hp, hfits]

theorem isSwapPrice_of_priceSwap {found : Option (Priced SwapRow)}
    (h : priceSwap amount tradeType row = .ok found) :
    (found = none ∧ row.canServe tradeType = false) ∨
      ∃ p, found = some p ∧ row.canServe tradeType = true ∧ p.row = row ∧
        IsSwapPrice amount tradeType p := by
  rcases priceSwap_cases amount tradeType row with
    ⟨hserves, hnone⟩ | ⟨hserves, ⟨-, cause, hrefused⟩ | ⟨-, p, hp, hrow, hprice⟩⟩
  · exact .inl ⟨(Except.ok.inj (hnone.symm.trans h)).symm, hserves⟩
  · rw [hrefused] at h
    cases h
  · exact .inr ⟨p, (Except.ok.inj (hp.symm.trans h)).symm, hserves, hrow, hprice⟩

theorem hasBetterAmount_iff (hp : IsSwapPrice amount tradeType p)
    (hq : IsSwapPrice amount tradeType q) :
    p.row.HasBetterAmount tradeType amount.val q.row ↔
      amountKey tradeType p < amountKey tradeType q := by
  cases tradeType with
  | exactInput =>
    simp only [SwapRow.HasBetterAmount, amountKey, ← hp.output_eq, ← hq.output_eq]
    omega
  | exactOutput =>
    simp only [SwapRow.HasBetterAmount, amountKey, ← hp.input_eq, ← hq.input_eq]
    omega

theorem hasSameAmount_iff (hp : IsSwapPrice amount tradeType p)
    (hq : IsSwapPrice amount tradeType q) :
    p.row.HasSameAmount tradeType amount.val q.row ↔
      amountKey tradeType p = amountKey tradeType q := by
  cases tradeType with
  | exactInput =>
    simp only [SwapRow.HasSameAmount, amountKey, ← hp.output_eq, ← hq.output_eq]
    omega
  | exactOutput =>
    simp only [SwapRow.HasSameAmount, amountKey, ← hp.input_eq, ← hq.input_eq]
    omega

/-- The key by which priced rows are compared puts them in the order of the strategy. -/
theorem prefers_iff_swapKey_lt (strategy : SwapStrategy) (hp : IsSwapPrice amount tradeType p)
    (hq : IsSwapPrice amount tradeType q) :
    strategy.Prefers tradeType amount.val p.row q.row ↔
      swapKey strategy tradeType p < swapKey strategy tradeType q := by
  unfold SwapStrategy.Prefers swapKey
  rw [hasBetterAmount_iff hp hq, hasSameAmount_iff hp hq]
  cases strategy with
  | bestOut => simp [List.cons_lt_cons_iff]
  | lowestFee => simp [List.cons_lt_cons_iff]

end Prices

theorem selects_selectSwap (rows : List SwapRow) (amount : Amount) (tradeType : TradeType)
    (c : Constraint) (strategy : SwapStrategy) :
    Selects (·.Overflows amount.val tradeType) (strategy.Prefers tradeType amount.val)
      (IsSwapPrice amount tradeType) (usableRows c tradeType rows) (noRoute rows.length c)
      (selectSwap rows amount tradeType c strategy) :=
  selects_of_prices (priceSwap amount tradeType) id (·.canServe tradeType)
    (swapKey strategy tradeType) (fun _ => priceSwap_refused_iff)
    (fun _ _ => isSwapPrice_of_priceSwap) (fun _ _ => prefers_iff_swapKey_lt strategy)
    (c.keep rows) rows.length c

/-- The choice of a swap row is invalid exactly when pricing some usable row goes past 256 bits and
without a route exactly when no row is usable.  Otherwise it is the first best usable row under the
strategy, with what goes in and what comes out over that row. -/
theorem selectSwap_first_best (rows : List SwapRow) (amount : Amount) (tradeType : TradeType)
    (c : Constraint) (strategy : SwapStrategy) :
    ((∃ cause, selectSwap rows amount tradeType c strategy = .error (.validation cause)) ↔
      ∃ row ∈ usableRows c tradeType rows, row.Overflows amount.val tradeType) ∧
    ((∃ cause, selectSwap rows amount tradeType c strategy = .error (.noRoute cause)) ↔
      usableRows c tradeType rows = []) ∧
    (usableRows c tradeType rows ≠ [] →
      (∀ row ∈ usableRows c tradeType rows, ¬ row.Overflows amount.val tradeType) →
      ∃ p, selectSwap rows amount tradeType c strategy = .ok p ∧
        IsFirstBest (strategy.Prefers tradeType amount.val) (usableRows c tradeType rows) p.row ∧
        p.input.val = p.row.input amount.val tradeType ∧
        p.output.val = p.row.output amount.val tradeType) := by
  have hselects := selects_selectSwap rows amount tradeType c strategy
  refine ⟨hselects.validation_iff, hselects.noRoute_iff, fun hne hfits => ?_⟩
  obtain ⟨p, hp, hbest, hprice⟩ := hselects.exists_ok hne hfits
  exact ⟨p, hp, hbest, hprice.input_eq, hprice.output_eq⟩

end Quote
end RelayDesk
