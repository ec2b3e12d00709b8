import RelayDesk.Proofs.Quote.Bridge
import RelayDesk.Proofs.Quote.Provider
import RelayDesk.Proofs.Quote.Swap

/-!
Quotes of swaps with an exact output.  Only one provider offers them, and only on some chains, so a
request is unsupported by what it names and never by what the tables hold.  A quote that is given
comes from a row of that provider, and under the best amount no such row needs less.
-/

namespace RelayDesk
namespace Quote

/-- Does the request ask for what no provider offers: another kind of chain, another provider, or a
list of providers without the one that there is? -/
def SwapRequest.AsksTooMuch (r : SwapRequest) : Prop :=
  ¬ "eip155:".toList <+: (normalizeChain r.chain).toList ∨
    (∃ provider, r.providers.exact = some provider ∧
      Text.asciiLower (Text.trim provider) ≠ "uniswap") ∨
    (r.providers.exact = none ∧ r.providers.priority ≠ [] ∧
      "uniswap" ∉ r.providers.priority)

/-- Is the row one of the exact output's provider, on the route of the request? -/
structure SwapRow.ServesExactOutput (row : SwapRow) (r : SwapRequest) : Prop where
  chain_eq : normalizeChain row.chain = normalizeChain r.chain
  tradeType_eq : row.tradeType = .exactOutput
  fromAsset_eq : Text.asciiLower row.fromAsset = Text.asciiLower (Text.trim r.fromAsset)
  toAsset_eq : Text.asciiLower row.toAsset = Text.asciiLower (Text.trim r.toAsset)
  provider_eq : Text.asciiLower (Text.trim row.provider) = "uniswap"

theorem isEvmChain_iff {chain : String} :
    isEvmChain chain = true ↔ "eip155:".toList <+: (normalizeChain chain).toList :=
  List.isPrefixOf_iff_prefix

theorem isExactly_iff {c : Constraint} {provider : String} (h : c.exact = some provider) :
    c.isExactly exactOutputProvider = true ↔ Text.asciiLower (Text.trim provider) = "uniswap" := by
  have hname : Text.asciiLower exactOutputProvider = "uniswap" := by decide
  unfold Constraint.isExactly Text.sameLetters
  rw [h]
  show (_ == _) = true ↔ _
  rw [beq_iff_eq, hname]

/-- An exact output is either unsupported, or served by its one provider; that provider counts as
filled in only where the request names none. -/
theorem resolveExactOutput_cases (r : SwapRequest) :
    (r.AsksTooMuch ∧
        ∃ cause, resolveExactOutput r.chain r.providers = .error (.unsupported cause)) ∨
      (¬ r.AsksTooMuch ∧ ∃ source,
        resolveExactOutput r.chain r.providers = .ok (.only exactOutputProvider, source) ∧
          (source = .tableDefaultProvider ↔
            r.providers.exact = none ∧ r.providers.priority = [])) := by
  unfold resolveExactOutput SwapRequest.AsksTooMuch
  rw [← isEvmChain_iff]
  cases hchain : isEvmChain r.chain with
  | false => exact .inl ⟨.inl Bool.false_ne_true, _, rfl⟩
  | true =>
    cases hexact : r.providers.exact with
    | some provider =>
      have hiff := isExactly_iff hexact
      by_cases hname : r.providers.isExactly exactOutputProvider = true
      · right
        refine ⟨by simp [hiff.mp hname], .table, by simp [hname], by simp⟩
      · left
        refine ⟨.inr (.inl ⟨provider, rfl, mt hiff.mpr hname⟩), .provider provider, by simp [hname]⟩
    | none =>
      by_cases hempty : r.providers.priority = []
      · right
        refine ⟨by simp [hempty], .tableDefaultProvider, by simp [hempty], by simp [hempty]⟩
      · by_cases hmem : "uniswap" ∈ r.providers.priority
        · right
          refine ⟨by simp [hmem], .table, ?_, by simp [hempty]⟩
          simp [hempty, exactOutputProvider, hmem]
        · left
          refine ⟨.inr (.inr ⟨rfl, hempty, hmem⟩), .providerList, ?_⟩
          simp [hempty, exactOutputProvider, hmem]

/-! ## Requests -/

/-- The quote that a priced row makes for a request. -/
def SwapRequest.quoteOf (r : SwapRequest) (source : QuoteSource) (p : Priced SwapRow) :
    SwapQuote where
  provider := p.row.provider
  chain := normalizeChain r.chain
  fromAsset := p.row.fromAsset
  toAsset := p.row.toAsset
  input := p.input
  output := p.output
  feeBps := p.row.feeBps
  impactBps := p.row.impactBps
  tradeType := r.tradeType
  strategy := r.strategy
  source := source
  slippagePct := r.slippagePct

theorem checkSlippage_ne_unsupported (slippagePct : Option Number.Binary64) (c : Constraint)
    (cause : Unsupported) : checkSlippage slippagePct c ≠ .error (.unsupported cause) := by
  unfold checkSlippage
  split
  · simp
  · split
    · simp
    · split <;> simp

section Requests

variable {tables : Tables} {r : SwapRequest}

theorem quoteSwap_eq (hchain : Text.isAllBlank r.chain = false)
    (hfrom : Text.isAllBlank r.fromAsset = false) (hto : Text.isAllBlank r.toAsset = false) :
    quoteSwap tables r =
      (r.resolve >>= fun resolved => checkSlippage r.slippagePct r.providers >>= fun _ =>
        (selectSwap (tables.swapRows r.chain r.fromAsset r.toAsset r.tradeType) r.amount
          r.tradeType resolved.1 r.strategy).map (r.quoteOf resolved.2)) := by
  unfold quoteSwap
  rw [requireText_of_not_blank hchain, requireText_of_not_blank hfrom,
    requireText_of_not_blank hto]
  rfl

/-- A request is unsupported by its providers and its chain alone. -/
theorem quoteSwap_unsupported_iff (hchain : Text.isAllBlank r.chain = false)
    (hfrom : Text.isAllBlank r.fromAsset = false) (hto : Text.isAllBlank r.toAsset = false)
    {cause : Unsupported} :
    quoteSwap tables r = .error (.unsupported cause) ↔
      r.resolve = .error (.unsupported cause) := by
  rw [quoteSwap_eq hchain hfrom hto]
  cases hresolve : r.resolve with
  | error fault => simp only [error_bind, Except.error.injEq]
  | ok resolved =>
    rw [ok_bind]
    cases hslippage : checkSlippage r.slippagePct r.providers with
    | error fault =>
      have hne := checkSlippage_ne_unsupported r.slippagePct r.providers cause
      rw [hslippage, ne_eq, Except.error.injEq] at hne
      rw [error_bind, Except.error.injEq]
      exact ⟨fun h => absurd h hne, nofun⟩
    | ok _ =>
      have hselects := selects_selectSwap
        (tables.swapRows r.chain r.fromAsset r.toAsset r.tradeType) r.amount r.tradeType
        resolved.1 r.strategy
      rw [ok_bind, map_eq_error_iff]
      exact ⟨fun h => absurd h (hselects.ne_unsupported cause), nofun⟩

/-- A quote is that of the first best usable row under the providers that were resolved. -/
theorem quoted_of_quoteSwap (hchain : Text.isAllBlank r.chain = false)
    (hfrom : Text.isAllBlank r.fromAsset = false) (hto : Text.isAllBlank r.toAsset = false)
    {q : SwapQuote} (h : quoteSwap tables r = .ok q) :
    ∃ providers source p, r.resolve = .ok (providers, source) ∧ q = r.quoteOf source p ∧
      IsFirstBest (r.strategy.Prefers r.tradeType r.amount.val)
        (usableRows providers r.tradeType
          (tables.swapRows r.chain r.fromAsset r.toAsset r.tradeType)) p.row ∧
      IsSwapPrice r.amount r.tradeType p := by
  rw [quoteSwap_eq hchain hfrom hto] at h
  obtain ⟨⟨providers, source⟩, hresolve, h⟩ := bind_eq_ok_iff.mp h
  obtain ⟨-, -, h⟩ := bind_eq_ok_iff.mp h
  have hselects := selects_selectSwap
    (tables.swapRows r.chain r.fromAsset r.toAsset r.tradeType) r.amount r.tradeType providers
    r.strategy
  cases hselect : selectSwap (tables.swapRows r.chain r.fromAsset r.toAsset r.tradeType) r.amount
      r.tradeType providers r.strategy with
  | error fault =>
    rw [hselect] at h
    cases h
  | ok p =>
    rw [hselect] at h hselects
    obtain ⟨hbest, hprice⟩ := hselects.of_ok
    exact ⟨providers, source, p, hresolve, (Except.ok.inj h).symm, hbest, hprice⟩

theorem serves_exactOutput_iff {row : SwapRow} :
    row.serves r.chain r.fromAsset r.toAsset .exactOutput = true ∧
        Text.asciiLower (Text.trim row.provider) = "uniswap" ↔ row.ServesExactOutput r := by
  unfold SwapRow.serves Text.sameLetters
  simp only [Bool.and_eq_true, beq_iff_eq]
  constructor
  · rintro ⟨⟨⟨⟨hchain, htype⟩, hfrom⟩, hto⟩, hprovider⟩
    exact ⟨hchain, htype, hfrom, hto, hprovider⟩
  · rintro ⟨hchain, htype, hfrom, hto, hprovider⟩
    exact ⟨⟨⟨⟨hchain, htype⟩, hfrom⟩, hto⟩, hprovider⟩

theorem mem_usableRows_exactOutput_iff {row : SwapRow} :
    row ∈ usableRows (.only exactOutputProvider) .exactOutput
        (tables.swapRows r.chain r.fromAsset r.toAsset .exactOutput) ↔
      row ∈ tables.swaps ∧ row.ServesExactOutput r ∧ row.feeBps < 10000 ∧
        row.impactBps < 10000 := by
  have hname : Text.asciiLower (Text.trim exactOutputProvider) = "uniswap" := by decide
  have hkeep (rows : List SwapRow) : row ∈ (Constraint.only exactOutputProvider).keep rows ↔
      row ∈ rows ∧ Text.asciiLower (Text.trim row.provider) = "uniswap" := by
    rw [← hname]
    exact Constraint.mem_keep_iff_of_exact rfl
  have hserves : row.canServe .exactOutput = true ↔
      row.feeBps < 10000 ∧ row.impactBps < 10000 := by
    unfold SwapRow.canServe
    rw [Bool.and_eq_true, decide_eq_true_eq, decide_eq_true_eq]
  unfold usableRows
  rw [List.mem_filter, hkeep, hserves]
  unfold Tables.swapRows
  rw [List.mem_filter, ← serves_exactOutput_iff]
  simp only [and_assoc]

theorem resolve_of_exactOutput (htype : r.tradeType = .exactOutput) :
    r.resolve = resolveExactOutput r.chain r.providers := by
  unfold SwapRequest.resolve
  rw [htype]

theorem resolve_of_exactInput (htype : r.tradeType = .exactInput) :
    r.resolve = .ok (r.providers, .table) := by
  unfold SwapRequest.resolve
  rw [htype]

theorem exists_unsupported_iff (hchain : Text.isAllBlank r.chain = false)
    (hfrom : Text.isAllBlank r.fromAsset = false) (hto : Text.isAllBlank r.toAsset = false)
    (htype : r.tradeType = .exactOutput) :
    (∃ cause, quoteSwap tables r = .error (.unsupported cause)) ↔ r.AsksTooMuch := by
  simp only [quoteSwap_unsupported_iff hchain hfrom hto, resolve_of_exactOutput htype]
  rcases resolveExactOutput_cases r with ⟨hmuch, hcause⟩ | ⟨hserved, source, hok, -⟩
  · exact ⟨fun _ => hmuch, fun _ => hcause⟩
  · rw [hok]
    exact ⟨nofun, fun h => absurd h hserved⟩

/-- The quote of an exact output is that of the first best row that the one provider can serve. -/
theorem exactOutput_of_quoteSwap (hchain : Text.isAllBlank r.chain = false)
    (hfrom : Text.isAllBlank r.fromAsset = false) (hto : Text.isAllBlank r.toAsset = false)
    (htype : r.tradeType = .exactOutput) {q : SwapQuote} (h : quoteSwap tables r = .ok q) :
    ∃ source p, q = r.quoteOf source p ∧
      IsFirstBest (r.strategy.Prefers .exactOutput r.amount.val)
        (usableRows (.only exactOutputProvider) .exactOutput
          (tables.swapRows r.chain r.fromAsset r.toAsset .exactOutput)) p.row ∧
      IsSwapPrice r.amount .exactOutput p ∧
      (source = .tableDefaultProvider ↔ r.providers.exact = none ∧ r.providers.priority = []) := by
  obtain ⟨providers, source, p, hproviders, rfl, hbest, hprice⟩ :=
    quoted_of_quoteSwap hchain hfrom hto h
  rw [resolve_of_exactOutput htype] at hproviders
  rcases resolveExactOutput_cases r with ⟨-, cause, herror⟩ | ⟨-, source', hok, hsource⟩
  · rw [herror] at hproviders
    cases hproviders
  · rw [hok] at hproviders
    obtain ⟨rfl, rfl⟩ := Prod.mk.inj (Except.ok.inj hproviders)
    rw [htype] at hbest hprice
    exact ⟨source', p, rfl, hbest, hprice, hsource⟩

/-- Under the best amount a row that needed less would be better, whatever its fee and its impact
are. -/
theorem input_le_of_isFirstBest {amount : Amount} {rows : List SwapRow} {p : Priced SwapRow}
    (hbest : IsFirstBest (SwapStrategy.bestOut.Prefers .exactOutput amount.val) rows p.row)
    (hprice : IsSwapPrice amount .exactOutput p) {row : SwapRow} (hrow : row ∈ rows) :
    p.input.val ≤ neededInput amount.val row.feeBps row.impactBps := by
  refine Nat.le_of_not_lt fun hless => hbest.unbeaten row hrow (.inl ?_)
  show row.input amount.val .exactOutput < p.row.input amount.val .exactOutput
  rw [← hprice.input_eq]
  exact hless

end Requests

/-- A request for an exact output that names its chain and its assets is unsupported exactly when it
asks for what no provider offers, whatever the tables, the amount, the strategy and the slippage
are.  A quote for it comes from a row of the one provider on its route, gives the amount asked for,
counts the provider as filled in exactly when the request names none, and under the best amount
needs no more than any such row.  A request for an exact input is never unsupported, and its quote
never has its provider filled in. -/
theorem quoteSwap_exactOutput (tables : Tables) (r : SwapRequest)
    (hchain : Text.isAllBlank r.chain = false) (hfrom : Text.isAllBlank r.fromAsset = false)
    (hto : Text.isAllBlank r.toAsset = false) :
    (r.tradeType = .exactOutput →
      ((∃ cause, quoteSwap tables r = .error (.unsupported cause)) ↔ r.AsksTooMuch) ∧
      (∀ tables' amount strategy slippagePct cause,
        quoteSwap tables' { r with amount, strategy, slippagePct } =
            .error (.unsupported cause) ↔
          quoteSwap tables r = .error (.unsupported cause)) ∧
      (∀ q, quoteSwap tables r = .ok q →
        (∃ source p, q = r.quoteOf source p ∧ p.row ∈ tables.swaps ∧
          p.row.ServesExactOutput r ∧
          p.input.val = neededInput r.amount.val p.row.feeBps p.row.impactBps) ∧
        Keyed.find? "estimatedAmountOut" q.members = some (.str (Nat.repr r.amount.val)) ∧
        (Keyed.find? "source" q.members = some (.str "static_registry_default_provider") ↔
          r.providers.exact = none ∧ r.providers.priority = []) ∧
        (r.strategy = .bestOut → ∀ row ∈ tables.swaps, row.ServesExactOutput r →
          row.feeBps < 10000 → row.impactBps < 10000 →
          q.input.val ≤ neededInput r.amount.val row.feeBps row.impactBps))) ∧
    (r.tradeType = .exactInput →
      (∀ cause, quoteSwap tables r ≠ .error (.unsupported cause)) ∧
      ∀ q, quoteSwap tables r = .ok q →
        Keyed.find? "source" q.members = some (.str "static_registry")) := by
  constructor
  · intro htype
    refine ⟨exists_unsupported_iff hchain hfrom hto htype, ?_, ?_⟩
    · intro tables' amount strategy slippagePct cause
      rw [quoteSwap_unsupported_iff hchain hfrom hto, quoteSwap_unsupported_iff]
      · rfl
      · exact hchain
      · exact hfrom
      · exact hto
    · intro q hq
      obtain ⟨source, p, rfl, hbest, hprice, hsource⟩ :=
        exactOutput_of_quoteSwap hchain hfrom hto htype hq
      obtain ⟨hrow, hserves, -, -⟩ := mem_usableRows_exactOutput_iff.mp hbest.mem
      refine ⟨⟨source, p, rfl, hrow, hserves, hprice.input_eq⟩, ?_, ?_, ?_⟩
      · show some (Json.str (Nat.repr p.output.val)) = _
        rw [hprice.output_eq]
        rfl
      · rw [← hsource]
        show some (Json.str source.name) = _ ↔ _
        cases source <;> decide
      · intro hstrategy row hmem hserves' hfee himpact
        rw [hstrategy] at hbest
        exact input_le_of_isFirstBest hbest hprice
          (mem_usableRows_exactOutput_iff.mpr ⟨hmem, hserves', hfee, himpact⟩)
  · intro htype
    refine ⟨fun cause h => ?_, fun q hq => ?_⟩
    · rw [quoteSwap_unsupported_iff hchain hfrom hto, resolve_of_exactInput htype] at h
      cases h
    · obtain ⟨providers, source, p, hproviders, rfl, -, -⟩ :=
        quoted_of_quoteSwap hchain hfrom hto hq
      rw [resolve_of_exactInput htype] at hproviders
      obtain ⟨-, rfl⟩ := Prod.mk.inj (Except.ok.inj hproviders)
      rfl

/-- Two rows of the one provider, the second of them cheaper, and a third of another provider that
would need less than either. -/
def rivalSwaps : Tables where
  bridges := []
  swaps :=
    [⟨" Uniswap", "base", "ETH", "USDC", .exactOutput, 30, 5⟩,
     ⟨"UNISWAP", "8453", "eth", "usdc", .exactOutput, 5, 3⟩,
     ⟨"aerodrome", "eip155:8453", "ETH", "USDC", .exactOutput, 0, 0⟩]

def rivalRequest : SwapRequest where
  chain := "Base"
  fromAsset := " eth"
  toAsset := "usdc"
  amount := ⟨1000000, by decide⟩
  tradeType := .exactOutput
  providers := .none
  strategy := .bestOut
  slippagePct := none

theorem cheaper_uniswap_row_quoted :
    Text.isAllBlank rivalRequest.chain = false ∧ Text.isAllBlank rivalRequest.fromAsset = false ∧
      Text.isAllBlank rivalRequest.toAsset = false ∧ ¬ rivalRequest.AsksTooMuch ∧
      ∃ q, quoteSwap rivalSwaps rivalRequest = .ok q ∧ q.input.val = 1000801 ∧
        Keyed.find? "source" q.members = some (.str "static_registry_default_provider") ∧
        ∀ row ∈ rivalSwaps.swaps, row.ServesExactOutput rivalRequest → row.feeBps < 10000 →
          row.impactBps < 10000 → 1000801 ≤ neededInput 1000000 row.feeBps row.impactBps := by
  have hanswer : quoteSwap rivalSwaps rivalRequest =
      .ok (rivalRequest.quoteOf .tableDefaultProvider
        ⟨⟨"UNISWAP", "8453", "eth", "usdc", .exactOutput, 5, 3⟩, ⟨1000801, by decide⟩,
          ⟨1000000, by decide⟩⟩) := by decide +kernel
  obtain ⟨hunsupported, -, hquoted⟩ :=
    (quoteSwap_exactOutput rivalSwaps rivalRequest (by decide) (by decide) (by decide)).1 rfl
  obtain ⟨-, -, hsource, hleast⟩ := hquoted _ hanswer
  refine ⟨by decide, by decide, by decide, fun hmuch => ?_, _, hanswer, rfl,
    hsource.mpr ⟨rfl, rfl⟩, hleast rfl⟩
  obtain ⟨cause, hcause⟩ := hunsupported.mpr hmuch
  rw [hanswer] at hcause
  cases hcause

end Quote
end RelayDesk
