import RelayDesk.Proofs.Quote.Pricing
import RelayDesk.Proofs.Quote.Selection
import RelayDesk.Quote.Request

/-!
Quotes of bridges.  A request is refused without a route exactly when no row may serve it, and as
invalid exactly when the fee of some row that may does not fit.  Every other request is answered
by the first best of its rows under the strategy.
-/

namespace RelayDesk
namespace Quote

/-- The rows that may serve a request, in the order of the table: of those between its chains and
of its asset, the ones that its providers leave. -/
def BridgeRequest.eligible (r : BridgeRequest) (tables : Tables) : List BridgeRow :=
  r.providers.keep (tables.bridges.filter fun row =>
    normalizeChain row.fromChain = normalizeChain r.fromChain ∧
      normalizeChain row.toChain = normalizeChain r.toChain ∧
      Text.asciiLower row.asset = Text.asciiLower (Text.trim r.asset))

/-- What arrives of an amount over a row. -/
def BridgeRow.arriving (row : BridgeRow) (amount : Nat) : Nat := restAfter amount row.feeBps

/-- Is one row better than another for an amount? -/
def BridgeStrategy.Prefers (strategy : BridgeStrategy) (amount : Nat) (a b : BridgeRow) : Prop :=
  match strategy with
  | .bestOut =>
    b.arriving amount < a.arriving amount ∨
      a.arriving amount = b.arriving amount ∧ a.etaSeconds < b.etaSeconds
  | .fastest =>
    a.etaSeconds < b.etaSeconds ∨
      a.etaSeconds = b.etaSeconds ∧ b.arriving amount < a.arriving amount

theorem serves_bridge_iff {row : BridgeRow} {fromChain toChain asset : String} :
    row.serves fromChain toChain asset = true ↔
      normalizeChain row.fromChain = normalizeChain fromChain ∧
        normalizeChain row.toChain = normalizeChain toChain ∧
        Text.asciiLower row.asset = Text.asciiLower (Text.trim asset) := by
  unfold BridgeRow.serves Text.sameLetters
  rw [Bool.and_eq_true, Bool.and_eq_true, beq_iff_eq, beq_iff_eq, beq_iff_eq, and_assoc]

theorem eligible_eq (r : BridgeRequest) (tables : Tables) :
    r.eligible tables =
      r.providers.keep (tables.bridgeRows r.fromChain r.toChain r.asset) := by
  refine congrArg r.providers.keep (List.filter_congr fun row _ => ?_)
  rw [Bool.eq_iff_iff, decide_eq_true_eq, serves_bridge_iff]

/-! ## Prices -/

/-- Is a priced row at its own price for the amount? -/
structure IsBridgePrice (amount : Amount) (p : Priced BridgeRow) : Prop where
  input_eq : p.input = amount
  output_eq : p.output.val = p.row.arriving amount.val

section Prices

variable {amount : Amount} {row : BridgeRow} {p q : Priced BridgeRow} {strategy : BridgeStrategy}

theorem priceBridge_of_lt (h : amount.val * row.feeBps < 2 ^ 256) :
    ∃ p, priceBridge amount row = .ok p ∧ p.row = row ∧ IsBridgePrice amount p := by
  obtain ⟨output, houtput, hval⟩ := deductBps_of_lt h
  refine ⟨⟨row, amount, output⟩, ?_, rfl, rfl, hval⟩
  unfold priceBridge bridgeOutput
  rw [houtput]
  rfl

theorem priceBridge_of_le (h : 2 ^ 256 ≤ amount.val * row.feeBps) :
    priceBridge amount row = .error (.overflow .amountByBps) := by
  unfold priceBridge bridgeOutput
  rw [deductBps_of_le h]
  rfl

theorem priceBridge_refused_iff :
    (∃ cause, priceBridge amount row = .error cause) ↔ 2 ^ 256 ≤ amount.val * row.feeBps :=
  refused_iff_le priceBridge_of_lt priceBridge_of_le

theorem isBridgePrice_of_priceBridge (h : priceBridge amount row = .ok p) :
    p.row = row ∧ IsBridgePrice amount p := by
  have hprice := of_ok_of_refused priceBridge_of_lt
    (fun hover => ⟨_, priceBridge_of_le (Nat.le_of_not_lt hover)⟩) h
  exact hprice

/-- The key by which priced rows are compared puts them in the order of the strategy. -/
theorem prefers_iff_bridgeKey_lt (hp : IsBridgePrice amount p) (hq : IsBridgePrice amount q) :
    strategy.Prefers amount.val p.row q.row ↔ bridgeKey strategy p < bridgeKey strategy q := by
  cases strategy with
  | bestOut =>
    simp only [bridgeKey, BridgeStrategy.Prefers, List.cons_lt_cons_iff, hp.output_eq,
      hq.output_eq]
    simp
  | fastest =>
    simp only [bridgeKey, BridgeStrategy.Prefers, List.cons_lt_cons_iff, hp.output_eq,
      hq.output_eq]
    simp

end Prices

theorem selects_selectBridge (rows : List BridgeRow) (amount : Amount) (c : Constraint)
    (strategy : BridgeStrategy) :
    Selects (fun row => 2 ^ 256 ≤ amount.val * row.feeBps) (strategy.Prefers amount.val)
      (IsBridgePrice amount) (c.keep rows) (noRoute rows.length c)
      (selectBridge rows amount c strategy) := by
  have hrefused : ∀ row, (∃ cause, priceBridge amount row = .error cause) ↔
      true = true ∧ 2 ^ 256 ≤ amount.val * row.feeBps := fun row => by
    rw [priceBridge_refused_iff, eq_self_iff_true, true_and]
  -- Every row is usable and has a price, or refuses the whole request.
  have h := selects_of_prices (priceBridge amount) some (fun _ => true) (bridgeKey strategy)
    hrefused (fun row p hp => .inr ⟨p, rfl, rfl, isBridgePrice_of_priceBridge hp⟩)
    (fun p q hp hq => prefers_iff_bridgeKey_lt hp hq) (c.keep rows) rows.length c
  simp only [List.filter_true, List.filterMap_some] at h
  exact h

/-! ## Requests -/

theorem requireText_of_not_blank {field value : String} (h : Text.isAllBlank value = false) :
    requireText field value = .ok () := by
  unfold requireText
  rw [h]
  rfl

/-- The quote that a priced row makes for a request. -/
def BridgeRequest.quoteOf (r : BridgeRequest) (p : Priced BridgeRow) : BridgeQuote where
  provider := p.row.provider
  fromChain := normalizeChain r.fromChain
  toChain := normalizeChain r.toChain
  asset := p.row.asset
  input := p.input
  output := p.output
  feeBps := p.row.feeBps
  etaSeconds := p.row.etaSeconds
  strategy := r.strategy
  source := .table

theorem quoteBridge_eq {tables : Tables} {r : BridgeRequest}
    (hfrom : Text.isAllBlank r.fromChain = false) (hto : Text.isAllBlank r.toChain = false)
    (hasset : Text.isAllBlank r.asset = false) :
    quoteBridge tables r =
      (selectBridge (tables.bridgeRows r.fromChain r.toChain r.asset) r.amount r.providers
        r.strategy).map r.quoteOf := by
  unfold quoteBridge
  rw [requireText_of_not_blank hfrom, requireText_of_not_blank hto,
    requireText_of_not_blank hasset]
  rfl

/-- A bridge request that names its chains and its asset is without a route exactly when no row may
serve it, and invalid exactly when the fee of a row that may serve it does not fit.  Otherwise the
first best of these rows answers it, with what it leaves of the amount. -/
theorem quoteBridge_first_best (tables : Tables) (r : BridgeRequest)
    (hfrom : Text.isAllBlank r.fromChain = false) (hto : Text.isAllBlank r.toChain = false)
    (hasset : Text.isAllBlank r.asset = false) :
    ((∃ cause, quoteBridge tables r = .error (.noRoute cause)) ↔ r.eligible tables = []) ∧
    ((∃ cause, quoteBridge tables r = .error (.validation cause)) ↔
      ∃ row ∈ r.eligible tables, 2 ^ 256 ≤ r.amount.val * row.feeBps) ∧
    (r.eligible tables ≠ [] →
      (∀ row ∈ r.eligible tables, r.amount.val * row.feeBps < 2 ^ 256) →
      ∃ row q, quoteBridge tables r = .ok q ∧
        IsFirstBest (r.strategy.Prefers r.amount.val) (r.eligible tables) row ∧
        q.provider = row.provider ∧ q.asset = row.asset ∧ q.feeBps = row.feeBps ∧
        q.etaSeconds = row.etaSeconds ∧
        Keyed.find? "amountIn" q.members = some (.str (Nat.repr r.amount.val)) ∧
        Keyed.find? "estimatedAmountOut" q.members =
          some (.str (Nat.repr (row.arriving r.amount.val)))) := by
  have hselects := selects_selectBridge (tables.bridgeRows r.fromChain r.toChain r.asset)
    r.amount r.providers r.strategy
  rw [← eligible_eq] at hselects
  rw [quoteBridge_eq hfrom hto hasset]
  refine ⟨?_, ?_, fun hne hfits => ?_⟩
  · simp only [map_eq_error_iff]
    exact hselects.noRoute_iff
  · simp only [map_eq_error_iff]
    exact hselects.validation_iff
  · obtain ⟨p, hp, hbest, hprice⟩ :=
      hselects.exists_ok hne fun row hrow => Nat.not_le.mpr (hfits row hrow)
    refine ⟨p.row, r.quoteOf p, by rw [hp]; rfl, hbest, rfl, rfl, rfl, rfl, ?_, ?_⟩
    · show some (Json.str (Nat.repr p.input.val)) = _
      rw [hprice.input_eq]
    · show some (Json.str (Nat.repr p.output.val)) = _
      rw [hprice.output_eq]

/-- Two rows with one fee, the second of them faster, and a third that takes more; the names of the
chains are spelt in different ways. -/
def tiedBridges : Tables where
  bridges :=
    [⟨"hop", "eip155:1", "base", "USDC", 30, 300⟩, ⟨"across", "1", "eip155:8453", "usdc", 5, 90⟩,
     ⟨"stargate", "eth", "8453", "Usdc", 5, 45⟩]
  swaps := []

def tiedRequest : BridgeRequest where
  fromChain := "Ethereum"
  toChain := "eip155:8453"
  asset := " usdc "
  amount := ⟨3000000, by decide⟩
  providers := .none
  strategy := .bestOut

theorem faster_of_tied_bridges_quoted :
    Text.isAllBlank tiedRequest.fromChain = false ∧ Text.isAllBlank tiedRequest.toChain = false ∧
      Text.isAllBlank tiedRequest.asset = false ∧
      ∃ row, IsFirstBest (tiedRequest.strategy.Prefers 3000000) tiedBridges.bridges row ∧
        row.provider = "stargate" ∧ Nat.repr (row.arriving 3000000) = "2998500" := by
  have heligible : tiedRequest.eligible tiedBridges = tiedBridges.bridges := by decide
  obtain ⟨-, -, hquoted⟩ :=
    quoteBridge_first_best tiedBridges tiedRequest (by decide) (by decide) (by decide)
  rw [heligible] at hquoted
  obtain ⟨row, q, hq, hbest, hprovider, -, -, -, -, hout⟩ := hquoted (by decide) (by decide)
  have hanswer : quoteBridge tiedBridges tiedRequest =
      .ok (tiedRequest.quoteOf ⟨⟨"stargate", "eth", "8453", "Usdc", 5, 45⟩,
        ⟨3000000, by decide⟩, ⟨2998500, by decide⟩⟩) := by decide
  obtain rfl := Except.ok.inj (hanswer.symm.trans hq)
  have htext : Json.str "2998500" = .str (Nat.repr (row.arriving 3000000)) :=
    Option.some.inj hout
  exact ⟨by decide, by decide, by decide, row, hbest, hprovider.symm, (Json.str.inj htext).symm⟩

end Quote
end RelayDesk
