import RelayDesk.Action.Dispatch
import RelayDesk.Proofs.Action.ValueSpelling

/-!
Spellings of a quote's params.  A chain may be given by any name of it, an asset in any case, an
amount in decimal, in hexadecimal or as a number, a list of providers as an array or as text, and
each field under any of its names.  Params that differ in such ways only are quoted alike, as long
as the texts and the lists that are given twice agree in both or in neither: those are compared as
they are spelt.
-/

namespace RelayDesk
namespace Action

open Params (Agreed Matches)

/-! ## Fields -/

/-- The values given for a field match. -/
def FieldAlike (same : Json → Json → Prop) (names : List String) (p q : Params) : Prop :=
  Matches same (p.given names) (q.given names)

/-- The values given for a field agree in both params or in neither. -/
def FieldAgrees {β : Type} (view : Json → Option (Option β)) (names : List String)
    (p q : Params) : Prop :=
  Agreed view (p.given names) ↔ Agreed view (q.given names)

section Fields

variable {p q : Params} {names : List String}

theorem fieldAlike_of_given_eq {same : Json → Json → Prop} (hrefl : ∀ v, same v v)
    (h : p.given names = q.given names) : FieldAlike same names p q where
  forth v hv := ⟨v, h ▸ hv, hrefl v⟩
  back w hw := ⟨w, h ▸ hw, hrefl w⟩

theorem fieldAlike_of_once {same : Json → Json → Prop} {v w : Json} (hp : p.given names = [v])
    (hq : q.given names = [w]) (h : same v w) : FieldAlike same names p q where
  forth v' hv := by
    rw [hp] at hv
    obtain rfl := List.mem_singleton.mp hv
    exact ⟨w, hq ▸ List.mem_cons_self, h⟩
  back w' hw := by
    rw [hq] at hw
    obtain rfl := List.mem_singleton.mp hw
    exact ⟨v, hp ▸ List.mem_cons_self, h⟩

theorem fieldAlike_of_twice {same : Json → Json → Prop} {v w : Json}
    (hp : p.given names = [v, v]) (hq : q.given names = [v, w]) (hv : same v v) (hw : same v w) :
    FieldAlike same names p q := by
  unfold FieldAlike
  rw [hp, hq]
  constructor
  · simp [hv]
  · simp [hv, hw]

theorem agreed_of_once {β : Type} (view : Json → Option (Option β))
    (h : (p.given names).length ≤ 1) : Agreed view (p.given names) := by
  intro v hv w hw a b ha hb
  obtain ⟨u, hu⟩ : ∃ u, p.given names = [u] :=
    List.length_eq_one_iff.mp (Nat.le_antisymm h (List.length_pos_of_mem hv))
  rw [hu] at hv hw
  obtain rfl := List.mem_singleton.mp hv
  obtain rfl := List.mem_singleton.mp hw
  exact Option.some.inj (Option.some.inj (ha.symm.trans hb))

theorem fieldAgrees_of_once {β : Type} (view : Json → Option (Option β))
    (hp : (p.given names).length ≤ 1) (hq : (q.given names).length ≤ 1) :
    FieldAgrees view names p q :=
  ⟨fun _ => agreed_of_once view hq, fun _ => agreed_of_once view hp⟩

theorem sameEnd_text_of_meaning {meaning : String → String} (hmeaning : Text.IsMeaning meaning)
    (h : FieldAlike (SameText meaning) names p q) (hagrees : FieldAgrees textView names p q) :
    SameEnd (fun m n => meaning (m.getD "") = meaning (n.getD "")) (fun _ _ => True)
      (p.text? names) (q.text? names) := by
  have hend := Params.sameEnd_agree sees_text meaning (fun v w => SameText.view_eq hmeaning) h
    hagrees
  refine hend.mono fun m n hmn => ?_
  cases m with
  | none =>
    cases n with
    | none => rfl
    | some t => cases hmn
  | some s =>
    cases n with
    | none => cases hmn
    | some t => simpa using hmn

theorem sameEnd_text (h : FieldAlike Eq names p q) :
    SameEnd Eq (fun _ _ => True) (p.text? names) (q.text? names) := by
  have hend := Params.sameEnd_agree_of_view_eq sees_text (fun _ _ => congrArg textView) h
  exact hend.mono fun m n hmn => by simpa using hmn

theorem sameEnd_amount (h : FieldAlike SameAmount names p q) :
    SameEnd Eq (fun _ _ => True) (p.amount? names) (q.amount? names) := by
  have hend := Params.sameEnd_agree_of_view_eq sees_amount (fun _ _ => SameAmount.view_eq) h
  exact hend.mono fun m n hmn => by simpa using hmn

theorem sameEnd_float (h : FieldAlike Eq names p q) :
    SameEnd (fun m n => m.map Number.Binary64.unsignedZero = n.map Number.Binary64.unsignedZero)
      (fun _ _ => True) (p.float? names) (q.float? names) :=
  Params.sameEnd_agree_of_view_eq sees_float (fun _ _ h => by rw [h]) h

theorem sameEnd_list (h : FieldAlike SameList names p q)
    (hagrees : FieldAgrees valueView names p q) :
    SameEnd Eq (fun _ _ => True) (p.list? names) (q.list? names) := by
  have hend := Params.sameEnd_agree sees_value (namesOf? (names.headD ""))
    (fun v w hvw => by simp [valueView, hvw.names_eq]) h hagrees
  unfold Params.list?
  apply SameEnd.bind hend
  intro m n hmn
  cases m with
  | none =>
    cases n with
    | none => exact .ok rfl
    | some w => cases hmn
  | some v =>
    cases n with
    | none => cases hmn
    | some w =>
      have hnames : namesOf? (names.headD "") v = namesOf? (names.headD "") w := by simpa using hmn
      apply SameEnd.bind (SameEnd.of_toOption_map_eq hnames)
      intro entries entries' hsame
      unfold Quote.Constraint.preferences at hsame
      rw [hsame]
      exact .ok rfl

end Fields

/-! ## Params -/

/-- Params that constrain the providers in the same way, up to the spelling of the list. -/
structure ProvidersAlike (p q : Params) : Prop where
  provider : FieldAlike Eq ["provider"] p q
  list : FieldAlike SameList ["providers", "providerPriority"] p q

/-- Params of a bridge quote that differ in spelling only. -/
structure BridgeAlike (p q : Params) : Prop extends ProvidersAlike p q where
  amount : FieldAlike SameAmount ["amount"] p q
  strategy : FieldAlike Eq ["strategy"] p q
  fromChain : FieldAlike (SameText Quote.normalizeChain) ["from", "fromChain"] p q
  toChain : FieldAlike (SameText Quote.normalizeChain) ["to", "toChain"] p q
  asset : FieldAlike (SameText Text.assetLetters) ["asset", "assetSymbol", "token"] p q

/-- The fields of a bridge quote that are compared as they are spelt agree in both params or in
neither. -/
structure BridgeAgrees (p q : Params) : Prop where
  fromChain : FieldAgrees textView ["from", "fromChain"] p q
  toChain : FieldAgrees textView ["to", "toChain"] p q
  asset : FieldAgrees textView ["asset", "assetSymbol", "token"] p q
  list : FieldAgrees valueView ["providers", "providerPriority"] p q

def amountNames : Quote.TradeType → List String
  | .exactInput => ["amount", "amountIn"]
  | .exactOutput => ["amountOut", "amount"]

def otherAmountName : Quote.TradeType → String
  | .exactInput => "amountOut"
  | .exactOutput => "amountIn"

/-- The side of the swap that params fix, if they tell. -/
def tradeTypeOf (p : Params) : Except Invalid Quote.TradeType := do
  chooseBy Quote.TradeType.ofText .exactInput (← p.text? ["type", "tradeType"])

/-- Params of a swap quote that differ in spelling only.  Of an amount for the other side only
whether there is one counts, since the quote is refused for it. -/
structure SwapAlike (p q : Params) : Prop extends ProvidersAlike p q where
  tradeType : FieldAlike Eq ["type", "tradeType"] p q
  amount : ∀ t, tradeTypeOf p = .ok t → FieldAlike SameAmount (amountNames t) p q
  otherAmount : ∀ t, tradeTypeOf p = .ok t →
    p.contains (otherAmountName t) = q.contains (otherAmountName t)
  strategy : FieldAlike Eq ["strategy"] p q
  chain : FieldAlike (SameText Quote.normalizeChain) ["chain", "chainId"] p q
  fromAsset : FieldAlike (SameText Text.assetLetters) ["fromAsset", "tokenIn", "sellToken"] p q
  toAsset : FieldAlike (SameText Text.assetLetters) ["toAsset", "tokenOut", "buyToken"] p q
  slippage : FieldAlike Eq ["slippagePct", "slippage"] p q

/-- The fields of a swap quote that are compared as they are spelt agree in both params or in
neither. -/
structure SwapAgrees (p q : Params) : Prop where
  chain : FieldAgrees textView ["chain", "chainId"] p q
  fromAsset : FieldAgrees textView ["fromAsset", "tokenIn", "sellToken"] p q
  toAsset : FieldAgrees textView ["toAsset", "tokenOut", "buyToken"] p q
  list : FieldAgrees valueView ["providers", "providerPriority"] p q

section Forms

variable {p q : Params}

theorem sameEnd_any {α : Type} (x : Except Invalid α) :
    SameEnd Eq (fun (_ _ : Invalid) => True) x x := SameEnd.refl (fun _ => trivial) x

theorem sameEnd_constraint (h : ProvidersAlike p q)
    (hagrees : FieldAgrees valueView ["providers", "providerPriority"] p q) :
    SameEnd Eq (fun _ _ => True) (constraintOfParams p) (constraintOfParams q) := by
  unfold constraintOfParams
  apply SameEnd.bind (sameEnd_text h.provider)
  rintro provider? _ rfl
  apply SameEnd.bind (sameEnd_list h.list hagrees)
  rintro list? _ rfl
  exact .ok rfl

theorem sameEnd_bridge (h : BridgeAlike p q) (hagrees : BridgeAgrees p q) :
    SameEnd Quote.BridgeRequest.Alike (fun _ _ => True) (bridgeOfParams p) (bridgeOfParams q) := by
  unfold bridgeOfParams
  apply SameEnd.bind (sameEnd_amount h.amount)
  rintro amount? _ rfl
  apply SameEnd.bind (sameEnd_any (requireAmount "amount" amount?))
  rintro amount _ rfl
  apply SameEnd.bind (sameEnd_text h.strategy)
  rintro strategy? _ rfl
  apply SameEnd.bind (sameEnd_any (chooseBy Quote.BridgeStrategy.ofText .bestOut strategy?))
  rintro strategy _ rfl
  apply SameEnd.bind (sameEnd_text_of_meaning Quote.isMeaning_normalizeChain h.fromChain
    hagrees.fromChain)
  intro fromChain fromChain' hfrom
  apply SameEnd.bind (sameEnd_text_of_meaning Quote.isMeaning_normalizeChain h.toChain
    hagrees.toChain)
  intro toChain toChain' hto
  apply SameEnd.bind (sameEnd_text_of_meaning Text.isMeaning_assetLetters h.asset hagrees.asset)
  intro asset asset' hasset
  apply SameEnd.bind (sameEnd_constraint h.toProvidersAlike hagrees.list)
  rintro providers _ rfl
  exact .ok ⟨hfrom, hto, hasset, rfl, rfl, rfl⟩

theorem sameEnd_requireAmount {names : List String} (name : String)
    (h : FieldAlike SameAmount names p q) :
    SameEnd Eq (fun _ _ => True) (p.amount? names >>= requireAmount name)
      (q.amount? names >>= requireAmount name) := by
  apply SameEnd.bind (sameEnd_amount h)
  rintro amount? _ rfl
  exact sameEnd_any (requireAmount name amount?)

/-- Both sides go by one rule, each with its own names. -/
theorem exists_tradeAmount_eq (t : Quote.TradeType) :
    ∃ (cause : Invalid) (name : String), ∀ p : Params, tradeAmount p t =
      if p.contains (otherAmountName t) = true then .error cause
      else p.amount? (amountNames t) >>= requireAmount name := by
  cases t with
  | exactInput => exact ⟨_, _, fun _ => rfl⟩
  | exactOutput => exact ⟨_, _, fun _ => rfl⟩

theorem sameEnd_tradeAmount {t : Quote.TradeType}
    (hamount : FieldAlike SameAmount (amountNames t) p q)
    (hother : p.contains (otherAmountName t) = q.contains (otherAmountName t)) :
    SameEnd Eq (fun _ _ => True) (tradeAmount p t) (tradeAmount q t) := by
  obtain ⟨cause, name, htrade⟩ := exists_tradeAmount_eq t
  rw [htrade p, htrade q, hother]
  by_cases hpresent : q.contains (otherAmountName t) = true
  · rw [if_pos hpresent, if_pos hpresent]
    exact .error trivial
  · rw [if_neg hpresent, if_neg hpresent]
    exact sameEnd_requireAmount name hamount

theorem sameEnd_swap (h : SwapAlike p q) (hagrees : SwapAgrees p q) :
    SameEnd Quote.SwapRequest.Alike (fun _ _ => True) (swapOfParams p) (swapOfParams q) := by
  unfold swapOfParams
  -- Which names carry the amount depends on the side, so what it was read from is kept.
  apply SameEnd.bind_of_ok (sameEnd_text h.tradeType)
  rintro type? _ htext rfl
  apply SameEnd.bind_of_ok (sameEnd_any (chooseBy Quote.TradeType.ofText .exactInput type?))
  rintro t _ hchoice rfl
  have htype : tradeTypeOf p = .ok t := by
    unfold tradeTypeOf
    rw [htext]
    exact hchoice
  apply SameEnd.bind (sameEnd_tradeAmount (h.amount t htype) (h.otherAmount t htype))
  rintro amount _ rfl
  apply SameEnd.bind (sameEnd_text h.strategy)
  rintro strategy? _ rfl
  apply SameEnd.bind (sameEnd_any (chooseBy Quote.SwapStrategy.ofText .bestOut strategy?))
  rintro strategy _ rfl
  apply SameEnd.bind (sameEnd_text_of_meaning Quote.isMeaning_normalizeChain h.chain hagrees.chain)
  intro chain chain' hchain
  apply SameEnd.bind (sameEnd_text_of_meaning Text.isMeaning_assetLetters h.fromAsset
    hagrees.fromAsset)
  intro fromAsset fromAsset' hfrom
  apply SameEnd.bind (sameEnd_text_of_meaning Text.isMeaning_assetLetters h.toAsset
    hagrees.toAsset)
  intro toAsset toAsset' hto
  apply SameEnd.bind (sameEnd_constraint h.toProvidersAlike hagrees.list)
  rintro providers _ rfl
  apply SameEnd.bind (sameEnd_float h.slippage)
  intro slippage slippage' hslippage
  exact .ok ⟨hchain, hfrom, hto, rfl, rfl, rfl, rfl, hslippage⟩

end Forms

/-! ## Quotes -/

/-- Faults that an envelope shows with one code and one kind. -/
def SameClass (a b : Fault) : Prop := a.code = b.code ∧ a.kind = b.kind

theorem kind_ofQuote (a : Quote.Fault) : (Fault.ofQuote a).kind = a.kind := by
  cases a <;> rfl

theorem code_ofQuote (a : Quote.Fault) :
    (Fault.ofQuote a).code =
      if a.kind = "validation" then 400 else if a.kind = "unsupported" then 422 else 404 := by
  cases a <;> rfl

theorem sameClass_ofQuote {a b : Quote.Fault} (h : Quote.SameKind a b) :
    SameClass (.ofQuote a) (.ofQuote b) := by
  have hkind : a.kind = b.kind := h
  unfold SameClass
  rw [code_ofQuote, code_ofQuote, kind_ofQuote, kind_ofQuote, hkind]
  exact ⟨rfl, rfl⟩

/-- Params that differ only in how a quote's chains, assets, amount and list of providers are spelt,
and in the names that carry the fields, are quoted alike: they give one result, or are refused with
one code and one kind.  Texts and lists that are given under several names are compared as they are
spelt, so they have to agree in both params or in neither. -/
theorem quotes_follow_meaning (tables : Quote.Tables) {p q : Params} :
    (BridgeAlike p q → BridgeAgrees p q →
      SameEnd Eq SameClass (bridgeQuote tables p) (bridgeQuote tables q)) ∧
    (SwapAlike p q → SwapAgrees p q →
      SameEnd Eq SameClass (swapQuote tables p) (swapQuote tables q)) := by
  constructor
  · intro h hagrees
    unfold bridgeQuote
    apply SameEnd.bind ((sameEnd_bridge h hagrees).mapError fun _ _ _ => ⟨rfl, rfl⟩)
    intro r s hrs
    rw [Quote.quoteBridge_congr tables hrs]
    exact SameEnd.refl (fun _ => ⟨rfl, rfl⟩) _
  · intro h hagrees
    unfold swapQuote
    apply SameEnd.bind ((sameEnd_swap h hagrees).mapError fun _ _ _ => ⟨rfl, rfl⟩)
    intro r s hrs
    apply SameEnd.bind ((Quote.sameEnd_quoteSwap tables hrs).mapError fun _ _ =>
      sameClass_ofQuote)
    rintro quote _ rfl
    exact .ok rfl

def sparseTables : Quote.Tables where
  bridges := [⟨"cctp", "eip155:1", "eip155:8453", "USDC", 0, 1020⟩]
  swaps := [⟨"uniswap", "eip155:1", "ETH", "USDC", .exactOutput, 30, 5⟩]

/-- A bridge by short names, the amount in hexadecimal. -/
def shortBridge : Params where
  members :=
    [("amount", .str "0xF4240"), ("assetSymbol", .str " usdc"), ("from", .str "eth"),
     ("providers", .arr [.str "across", .str "cctp"]), ("toChain", .ofNat 8453)]

/-- The same bridge by other names. -/
def longBridge : Params where
  members :=
    [("amount", .ofNat 1000000), ("fromChain", .str "Mainnet"),
     ("providerPriority", .str "across,cctp"), ("to", .str "base"), ("token", .str "USDC")]

theorem shortBridge_alike_longBridge : BridgeAlike shortBridge longBridge where
  provider := fieldAlike_of_given_eq (fun _ => rfl) rfl
  strategy := fieldAlike_of_given_eq (fun _ => rfl) rfl
  amount := fieldAlike_of_once rfl rfl
    (.inr ⟨1000000, .hexadecimal (.inl rfl) rfl rfl rfl, .number rfl rfl (by decide)⟩)
  fromChain := fieldAlike_of_once rfl rfl (.inr ⟨_, _, rfl, rfl, by decide⟩)
  toChain := fieldAlike_of_once rfl rfl (.inr ⟨_, _, rfl, rfl, by decide⟩)
  asset := fieldAlike_of_once rfl rfl (.inr ⟨_, _, rfl, rfl, by decide⟩)
  list := fieldAlike_of_once rfl rfl
    (.inr ⟨["across", "cctp"], .array, .joined (by decide)⟩)

theorem shortBridge_agrees_longBridge : BridgeAgrees shortBridge longBridge where
  fromChain := fieldAgrees_of_once _ (by decide) (by decide)
  toChain := fieldAgrees_of_once _ (by decide) (by decide)
  asset := fieldAgrees_of_once _ (by decide) (by decide)
  list := fieldAgrees_of_once _ (by decide) (by decide)

/-- A swap for a fixed output on a chain by its name. -/
def namedSwap : Params where
  members :=
    [("amount", .str "2500"), ("buyToken", .str "usdc"), ("chain", .str "ETHEREUM"),
     ("sellToken", .str "ETH"), ("tradeType", .str "buy")]

/-- The same swap on the chain by its number. -/
def numberedSwap : Params where
  members :=
    [("amountOut", .ofNat 2500), ("chainId", .ofNat 1), ("toAsset", .str "USDC "),
     ("tokenIn", .str "Eth"), ("type", .str "buy")]

theorem tradeTypeOf_namedSwap : tradeTypeOf namedSwap = .ok .exactOutput := by
  rw [← toOption_eq_some_iff]
  decide +kernel

theorem namedSwap_alike_numberedSwap : SwapAlike namedSwap numberedSwap where
  provider := fieldAlike_of_given_eq (fun _ => rfl) rfl
  list := fieldAlike_of_given_eq (fun _ => .inl rfl) rfl
  tradeType := fieldAlike_of_once rfl rfl rfl
  amount t ht := by
    rw [tradeTypeOf_namedSwap] at ht
    obtain rfl := Except.ok.inj ht
    exact fieldAlike_of_once rfl rfl
      (.inr ⟨2500, .decimal (by decide) (by decide), .number (by decide) (by decide) (by decide)⟩)
  otherAmount t ht := by
    rw [tradeTypeOf_namedSwap] at ht
    obtain rfl := Except.ok.inj ht
    rfl
  strategy := fieldAlike_of_given_eq (fun _ => rfl) rfl
  chain := fieldAlike_of_once rfl rfl (.inr ⟨_, _, rfl, rfl, by decide⟩)
  fromAsset := fieldAlike_of_once rfl rfl (.inr ⟨_, _, rfl, rfl, by decide⟩)
  toAsset := fieldAlike_of_once rfl rfl (.inr ⟨_, _, rfl, rfl, by decide⟩)
  slippage := fieldAlike_of_given_eq (fun _ => rfl) rfl

theorem namedSwap_agrees_numberedSwap : SwapAgrees namedSwap numberedSwap where
  chain := fieldAgrees_of_once _ (by decide) (by decide)
  fromAsset := fieldAgrees_of_once _ (by decide) (by decide)
  toAsset := fieldAgrees_of_once _ (by decide) (by decide)
  list := fieldAgrees_of_once _ (by decide) (by decide)

/-- Both spellings of the bridge are quoted, and both of the swap. -/
theorem respelt_params_quoted :
    (∃ quote, bridgeQuote sparseTables shortBridge = .ok quote ∧
      bridgeQuote sparseTables longBridge = .ok quote) ∧
    ∃ quote, swapQuote sparseTables namedSwap = .ok quote ∧
      swapQuote sparseTables numberedSwap = .ok quote := by
  have hbridge := (quotes_follow_meaning sparseTables).1 shortBridge_alike_longBridge
    shortBridge_agrees_longBridge
  have hswap := (quotes_follow_meaning sparseTables).2 namedSwap_alike_numberedSwap
    namedSwap_agrees_numberedSwap
  exact ⟨hbridge.exists_ok (by decide +kernel), hswap.exists_ok (by decide +kernel)⟩

/-- A bridge whose source, asset and providers are each given twice. -/
def twiceGiven (chain asset : String) (list : Json) : Params where
  members :=
    [("amount", .str "1000000"), ("asset", .str "USDC"), ("from", .str "eth"),
     ("fromChain", .str chain), ("providerPriority", list), ("providers", .arr [.str "cctp"]),
     ("to", .str "base"), ("token", .str asset)]

theorem twiceGiven_alike {chain asset : String} {list : Json}
    (hchain : Quote.normalizeChain chain = Quote.normalizeChain "eth")
    (hasset : Text.assetLetters asset = Text.assetLetters "USDC") (hlist : Lists ["cctp"] list) :
    BridgeAlike (twiceGiven "eth" "USDC" (.arr [.str "cctp"])) (twiceGiven chain asset list) where
  provider := fieldAlike_of_given_eq (fun _ => rfl) rfl
  strategy := fieldAlike_of_given_eq (fun _ => rfl) rfl
  amount := fieldAlike_of_given_eq (fun _ => .inl rfl) rfl
  toChain := fieldAlike_of_given_eq (fun _ => .inl rfl) rfl
  fromChain := fieldAlike_of_twice rfl rfl (.inl rfl) (.inr ⟨_, _, rfl, rfl, hchain.symm⟩)
  asset := fieldAlike_of_twice rfl rfl (.inl rfl) (.inr ⟨_, _, rfl, rfl, hasset.symm⟩)
  list := by
    have hgiven : (twiceGiven chain asset list).given ["providers", "providerPriority"] =
        [.arr [.str "cctp"], list] := by
      cases hlist <;> rfl
    exact fieldAlike_of_twice rfl hgiven (.inl rfl) (.inr ⟨["cctp"], .array, hlist⟩)

/-- Params that differ in spelling only and are not quoted alike. -/
def QuotedApart (tables : Quote.Tables) (p q : Params) : Prop :=
  BridgeAlike p q ∧ ¬ SameEnd Eq SameClass (bridgeQuote tables p) (bridgeQuote tables q)

theorem quotedApart_of_refused {tables : Quote.Tables} {p q : Params} (h : BridgeAlike p q)
    (hquoted : (bridgeQuote tables p).toOption.isSome = true)
    (hrefused : (bridgeQuote tables q).toOption = none) : QuotedApart tables p q := by
  refine ⟨h, fun hend => ?_⟩
  obtain ⟨quote, -, hquote⟩ := hend.exists_ok hquoted
  rw [hquote] at hrefused
  cases hrefused

/-- What is given twice does not pass for one when only its meaning is the same: a chain by two of
its names, an asset in two cases, a list as an array and as text. -/
theorem twice_given_fields_compared_as_spelt :
    QuotedApart sparseTables (twiceGiven "eth" "USDC" (.arr [.str "cctp"]))
        (twiceGiven "ethereum" "USDC" (.arr [.str "cctp"])) ∧
      QuotedApart sparseTables (twiceGiven "eth" "USDC" (.arr [.str "cctp"]))
        (twiceGiven "eth" "usdc" (.arr [.str "cctp"])) ∧
      QuotedApart sparseTables (twiceGiven "eth" "USDC" (.arr [.str "cctp"]))
        (twiceGiven "eth" "USDC" (.str "cctp")) := by
  have hquoted : (bridgeQuote sparseTables
      (twiceGiven "eth" "USDC" (.arr [.str "cctp"]))).toOption.isSome = true := by
    decide +kernel
  refine ⟨quotedApart_of_refused ?_ hquoted ?_, quotedApart_of_refused ?_ hquoted ?_,
    quotedApart_of_refused ?_ hquoted ?_⟩
  · exact twiceGiven_alike (by decide) rfl .array
  · decide +kernel
  · exact twiceGiven_alike rfl (by decide) .array
  · decide +kernel
  · exact twiceGiven_alike rfl rfl (.joined (by decide))
  · decide +kernel

end Action
end RelayDesk
