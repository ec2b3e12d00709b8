import RelayDesk.Proofs.Action.Accessors
import RelayDesk.Proofs.Action.QuoteSpelling

/-!
The amount of a swap.  It may stand under three names, one of which is for the side that the swap
does not fix.  A swap that is accepted has an amount under one of the names at least, takes every
one that it has for the same number, and has none for the other side.  Any other is refused from its
params alone, before the tables are looked at.
-/

namespace RelayDesk
namespace Action

open Cache (Relay Store)
open Quote (Amount TradeType)

def amountFields : List String := ["amount", "amountIn", "amountOut"]

def tradeTypeFields : List String := ["type", "tradeType"]

/-- The side that params fix: the input, unless they tell. -/
inductive FixesSide (p : Params) : TradeType → Prop
  | untold (absent : ∀ v, ¬ p.Present IsBlankText tradeTypeFields v) : FixesSide p .exactInput
  | told {s : String} {t : TradeType} (present : ∃ v, p.Present IsBlankText tradeTypeFields v)
      (agreed : ∀ v, p.Present IsBlankText tradeTypeFields v → trimmedText? v = some s)
      (read : TradeType.ofText s = .ok t) : FixesSide p t

/-- Params with an amount for a side of the swap, and with no other amount. -/
structure FixesAmount (p : Params) (t : TradeType) (a : Amount) : Prop where
  present : ∃ v, p.Present NeverAbsent amountFields v
  agreed : ∀ name ∈ amountFields, ∀ v, p.Present NeverAbsent [name] v →
    Amount.ofJson name v = .ok a
  other_absent : ∀ v, ¬ p.Present NeverAbsent [otherAmountName t] v

/-- Params from which all of a request can be read but its side and its amount. -/
structure ReadsTerms (p : Params) (request : Quote.SwapRequest) : Prop where
  strategy : (p.text? ["strategy"] >>= chooseBy Quote.SwapStrategy.ofText .bestOut) =
    .ok request.strategy
  chain : ∃ chain, p.text? ["chain", "chainId"] = .ok chain ∧ chain.getD "" = request.chain
  fromAsset : ∃ asset, p.text? ["fromAsset", "tokenIn", "sellToken"] = .ok asset ∧
    asset.getD "" = request.fromAsset
  toAsset : ∃ asset, p.text? ["toAsset", "tokenOut", "buyToken"] = .ok asset ∧
    asset.getD "" = request.toAsset
  providers : constraintOfParams p = .ok request.providers
  slippage : p.float? ["slippagePct", "slippage"] = .ok request.slippagePct

/-- Params that are refused for themselves, whatever the desk and its relay hold. -/
def RefusedUnquoted (p : Params) : Prop :=
  ∃ cause, swapOfParams p = .error cause ∧
    ∀ {σ : Type} [Store σ] (d : Desk) (r : Relay σ) (now : Int) (answer : Rpc.Answer),
      Operation.swapQuote.run d r p now answer = (.error (.validation cause), r)

section Amounts

variable {p : Params} {v : Json} {t : TradeType} {a : Amount}

/-! ## The side -/

theorem chooseBy_eq_ok_iff {α : Type} {ofText : String → Except Quote.Invalid α}
    {default choice : α} {text? : Option String} :
    chooseBy ofText default text? = .ok choice ↔
      (text? = none ∧ choice = default) ∨ ∃ s, text? = some s ∧ ofText s = .ok choice := by
  cases text? with
  | none =>
    show Except.ok default = Except.ok choice ↔ _
    simp [eq_comm]
  | some s =>
    show (ofText s).mapError Invalid.quote = .ok choice ↔ _
    simp [mapError_eq_ok_iff]

theorem tradeTypeOf_eq_ok_iff : tradeTypeOf p = .ok t ↔ FixesSide p t := by
  have htext := takesAgreeing_of_sees sees_text views_text
  unfold tradeTypeOf
  rw [bind_eq_ok_iff]
  constructor
  · rintro ⟨text?, hread, hchoice⟩
    rcases chooseBy_eq_ok_iff.mp hchoice with ⟨rfl, rfl⟩ | ⟨s, rfl, hs⟩
    · exact .untold ((htext.none_iff p tradeTypeFields).mp hread)
    · obtain ⟨hpresent, hagreed⟩ := (htext.some_iff p tradeTypeFields s).mp hread
      exact .told hpresent hagreed hs
  · rintro (habsent | ⟨hpresent, hagreed, hs⟩)
    · exact ⟨none, (htext.none_iff p tradeTypeFields).mpr habsent,
        chooseBy_eq_ok_iff.mpr (.inl ⟨rfl, rfl⟩)⟩
    · exact ⟨some _, (htext.some_iff p tradeTypeFields _).mpr ⟨hpresent, hagreed⟩,
        chooseBy_eq_ok_iff.mpr (.inr ⟨_, rfl, hs⟩)⟩

/-! ## The amount -/

theorem requireAmount_eq_ok_iff {a? : Option Amount} :
    requireAmount name a? = .ok a ↔ a? = some a := by
  cases a? with
  | none => exact ⟨nofun, nofun⟩
  | some b =>
    show Except.ok b = Except.ok a ↔ some b = some a
    simp only [Except.ok.injEq, Option.some.injEq]

theorem tradeAmount_eq_ok_iff_amount? :
    tradeAmount p t = .ok a ↔
      p.contains (otherAmountName t) = false ∧ p.amount? (amountNames t) = .ok (some a) := by
  obtain ⟨cause, name, htrade⟩ := exists_tradeAmount_eq t
  rw [htrade p]
  by_cases hother : p.contains (otherAmountName t) = true
  · simp [hother]
  · simp [hother, bind_eq_ok_iff, requireAmount_eq_ok_iff]

/-- The names of a side and the one for the other side are all that an amount may go by. -/
theorem present_amountFields_iff (t : TradeType) :
    p.Present NeverAbsent amountFields v ↔
      p.Present NeverAbsent [otherAmountName t] v ∨ p.Present NeverAbsent (amountNames t) v := by
  have hperm : ([otherAmountName t] ++ amountNames t).Perm amountFields := by
    cases t <;> decide
  rw [← present_congr hperm, present_append_iff]

theorem tradeAmount_eq_ok_iff : tradeAmount p t = .ok a ↔ FixesAmount p t a := by
  have hread : ∀ name v, Amount.ofJson name v = .ok a ↔ Amount.ofJson? v = some a := by
    intro name v
    rw [← Amount.toOption_ofJson name v, toOption_eq_some_iff]
  rw [tradeAmount_eq_ok_iff_amount?, contains_eq_false_iff, takesAgreeing_amount.some_iff]
  constructor
  · rintro ⟨hother, ⟨v, hv⟩, hagreed⟩
    refine ⟨⟨v, (present_amountFields_iff t).mpr (.inr hv)⟩, fun name hname w hw => ?_, hother⟩
    have hfield := present_iff_exists.mpr ⟨name, hname, hw⟩
    rcases (present_amountFields_iff t).mp hfield with hwrong | hside
    · exact absurd hwrong (hother w)
    · exact (hread name w).mpr (hagreed w hside)
  · rintro ⟨⟨v, hv⟩, hagreed, hother⟩
    refine ⟨hother, ⟨v, ?_⟩, fun w hw => ?_⟩
    · rcases (present_amountFields_iff t).mp hv with hwrong | hside
      · exact absurd hwrong (hother v)
      · exact hside
    · have hfield := (present_amountFields_iff t).mpr (.inr hw)
      obtain ⟨name, hname, hw⟩ := present_iff_exists.mp hfield
      exact (hread name w).mp (hagreed name hname w hw)

end Amounts

/-! ## Swaps -/

theorem swapOfParams_eq_ok_iff {p : Params} {request : Quote.SwapRequest} :
    swapOfParams p = .ok request ↔
      tradeTypeOf p = .ok request.tradeType ∧
        tradeAmount p request.tradeType = .ok request.amount ∧ ReadsTerms p request := by
  unfold swapOfParams
  constructor
  · intro h
    obtain ⟨type?, htype, h⟩ := bind_eq_ok_iff.mp h
    obtain ⟨t, hchoice, h⟩ := bind_eq_ok_iff.mp h
    obtain ⟨amount, hamount, h⟩ := bind_eq_ok_iff.mp h
    obtain ⟨strategy?, htext, h⟩ := bind_eq_ok_iff.mp h
    obtain ⟨strategy, hstrategy, h⟩ := bind_eq_ok_iff.mp h
    obtain ⟨chain, hchain, h⟩ := bind_eq_ok_iff.mp h
    obtain ⟨fromAsset, hfrom, h⟩ := bind_eq_ok_iff.mp h
    obtain ⟨toAsset, hto, h⟩ := bind_eq_ok_iff.mp h
    obtain ⟨providers, hproviders, h⟩ := bind_eq_ok_iff.mp h
    obtain ⟨slippage, hslippage, h⟩ := bind_eq_ok_iff.mp h
    obtain rfl := Except.ok.inj h
    exact ⟨bind_eq_ok_iff.mpr ⟨type?, htype, hchoice⟩, hamount,
      ⟨bind_eq_ok_iff.mpr ⟨strategy?, htext, hstrategy⟩, ⟨chain, hchain, rfl⟩,
        ⟨fromAsset, hfrom, rfl⟩, ⟨toAsset, hto, rfl⟩, hproviders, hslippage⟩⟩
  · rintro ⟨htype, hamount, hterms⟩
    obtain ⟨type?, htype, hchoice⟩ := bind_eq_ok_iff.mp htype
    obtain ⟨strategy?, htext, hstrategy⟩ := bind_eq_ok_iff.mp hterms.strategy
    obtain ⟨chain, hchain, hchain'⟩ := hterms.chain
    obtain ⟨fromAsset, hfrom, hfrom'⟩ := hterms.fromAsset
    obtain ⟨toAsset, hto, hto'⟩ := hterms.toAsset
    simp only [htype, hchoice, hamount, htext, hstrategy, hchain, hfrom, hto, hterms.providers,
      hterms.slippage, hchain', hfrom', hto', ok_bind]
    rfl

theorem refusedUnquoted_of_not_ok {p : Params} (h : ∀ request, swapOfParams p ≠ .ok request) :
    RefusedUnquoted p := by
  cases hswap : swapOfParams p with
  | ok request => exact absurd hswap (h request)
  | error cause =>
    refine ⟨cause, hswap, fun d r now answer => ?_⟩
    show (swapQuote d.tables p, r) = _
    unfold swapQuote
    rw [hswap]
    rfl

/-- A swap is accepted exactly when its params fix a side, hold amounts for that side only which are
all read as one, and the rest of them can be read; the request has that side and that amount.
Whatever does not fix a side and one such amount is refused from its params alone, as is every swap
that is not accepted. -/
theorem swaps_take_every_amount (p : Params) :
    (∀ request, swapOfParams p = .ok request ↔
      FixesSide p request.tradeType ∧ FixesAmount p request.tradeType request.amount ∧
        ReadsTerms p request) ∧
    ((∀ request, swapOfParams p ≠ .ok request) → RefusedUnquoted p) ∧
    ((∀ t a, FixesSide p t → ¬ FixesAmount p t a) → RefusedUnquoted p) := by
  have haccepted : ∀ request, swapOfParams p = .ok request ↔
      FixesSide p request.tradeType ∧ FixesAmount p request.tradeType request.amount ∧
        ReadsTerms p request := by
    intro request
    rw [swapOfParams_eq_ok_iff, tradeTypeOf_eq_ok_iff, tradeAmount_eq_ok_iff]
  refine ⟨haccepted, refusedUnquoted_of_not_ok, fun hnone => ?_⟩
  apply refusedUnquoted_of_not_ok
  intro request h
  obtain ⟨hside, hamount, -⟩ := (haccepted request).mp h
  exact hnone _ _ hside hamount

/-- A swap with its amount in two spellings and a null for the other side. -/
def outputSwap : Params where
  members :=
    [("amount", .ofNat 16), ("amountIn", .null), ("amountOut", .str " 0x10 "),
     ("tradeType", .str "Exact-Out")]

def outputRequest : Quote.SwapRequest where
  chain := ""
  fromAsset := ""
  toAsset := ""
  amount := ⟨16, by decide⟩
  tradeType := .exactOutput
  providers := { exact := none, priority := [] }
  strategy := .bestOut
  slippagePct := none

/-- A swap with an amount for either side. -/
def twoSidedSwap : Params where
  members := [("amount", .str "1"), ("amountOut", .str "2")]

/-- The first of the two swaps is accepted for all of its amounts.  No amount and no side make sense
of the second. -/
theorem outputSwap_taken_and_twoSidedSwap_refused :
    swapOfParams outputSwap = .ok outputRequest ∧ FixesSide outputSwap .exactOutput ∧
      FixesAmount outputSwap .exactOutput ⟨16, by decide⟩ ∧ RefusedUnquoted twoSidedSwap := by
  have hswap : swapOfParams outputSwap = .ok outputRequest := by
    rw [← toOption_eq_some_iff]
    decide +kernel
  obtain ⟨hside, hamount, -⟩ := ((swaps_take_every_amount outputSwap).1 outputRequest).mp hswap
  refine ⟨hswap, hside, hamount, (swaps_take_every_amount twoSidedSwap).2.2 ?_⟩
  intro t a _ hboth
  have hone := hboth.agreed "amount" (by decide) (.str "1")
    ⟨⟨"amount", List.mem_singleton_self _, rfl⟩, nofun, id⟩
  have htwo := hboth.agreed "amountOut" (by decide) (.str "2")
    ⟨⟨"amountOut", List.mem_singleton_self _, rfl⟩, nofun, id⟩
  have hdiffer : (Amount.ofJson "amount" (.str "1")).toOption ≠
      (Amount.ofJson "amountOut" (.str "2")).toOption := by
    decide
  exact hdiffer (by rw [hone, htwo])

end Action
end RelayDesk
