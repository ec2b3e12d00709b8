import RelayDesk.Proofs.Except
import RelayDesk.Proofs.Text.Lowercase
import RelayDesk.Quote.Request

/-!
Requests that mean the same.  What a request asks for depends on the normal names of its chains and
on the letters of its assets, and on no other part of their spelling: two requests that agree on
these are answered alike.  A refusal may repeat what was given, so only its kind is the same.
-/

namespace RelayDesk

namespace Text

/-- A meaning of texts that does not see the blanks around them, and keeps the blank texts apart
from all others. -/
structure IsMeaning (meaning : String → String) : Prop where
  trim_eq : ∀ s, meaning (trim s) = meaning s
  empty_iff : ∀ s, meaning s = "" ↔ trim s = ""

theorem IsMeaning.isAllBlank_eq {meaning : String → String} (h : IsMeaning meaning) {s t : String}
    (heq : meaning s = meaning t) : isAllBlank s = isAllBlank t := by
  rw [Bool.eq_iff_iff, ← trim_eq_empty_iff, ← trim_eq_empty_iff, ← h.empty_iff, ← h.empty_iff, heq]

/-- The letters of an asset, whatever their case. -/
def assetLetters (s : String) : String := asciiLower (trim s)

theorem isMeaning_assetLetters : IsMeaning assetLetters where
  trim_eq s := by
    unfold assetLetters
    rw [trim_trim]
  empty_iff s := by
    unfold assetLetters asciiLower
    constructor
    · intro h
      have hchars : (trim s).toList = [] := by simpa using congrArg String.toList h
      simpa using congrArg String.ofList hchars
    · intro h
      rw [h]
      rfl

end Text

namespace Number.Binary64

/-- The number with one zero for both. -/
def unsignedZero : Binary64 → Binary64
  | .finite negative significand exponent =>
    if significand = 0 then .finite false 0 0 else .finite negative significand exponent
  | x => x

theorem same_iff {x y : Binary64} (hx : x.isFinite = true) (hy : y.isFinite = true) :
    x.same y = true ↔ x.unsignedZero = y.unsignedZero := by
  cases x with
  | finite s m e =>
    cases y with
    | finite t n f =>
      unfold same unsignedZero
      by_cases hm : m = 0
      · by_cases hn : n = 0
        · simp [hm, hn]
        · simp [hm, hn, Ne.symm hn]
      · by_cases hn : n = 0
        · simp [hm, hn]
        · simp [hm, hn]
          tauto
    | _ => cases hy
  | _ => cases hx

theorem unsignedZero_of_isPositive {x : Binary64} (h : x.isPositive = true) :
    x.unsignedZero = x := by
  cases x with
  | finite s m e =>
    simp only [isPositive, Bool.and_eq_true, bne_iff_ne] at h
    exact if_neg h.2
  | _ => rfl

theorem isPositive_unsignedZero (x : Binary64) : x.unsignedZero.isPositive = x.isPositive := by
  cases x with
  | finite s m e =>
    by_cases hm : m = 0
    · simp [unsignedZero, isPositive, hm]
    · simp [unsignedZero, hm]
  | _ => rfl

end Number.Binary64

namespace Quote

theorem chainAliases_ne_empty : ∀ a ∈ chainAliases, a.1 ≠ "" ∧ a.2 ≠ "" := by decide

theorem normalizeFolded_eq_empty_iff {name : String} : normalizeFolded name = "" ↔ name = "" := by
  unfold normalizeFolded
  split
  · next a hfind =>
    obtain ⟨hname, hnormal⟩ := chainAliases_ne_empty a (List.mem_of_find?_eq_some hfind)
    have hfound : a.1 = name := by simpa using List.find?_some hfind
    rw [hfound] at hname
    exact ⟨fun h => absurd h hnormal, fun h => absurd h hname⟩
  · split
    · next hdigits =>
      have hname : name ≠ "" := by
        rintro rfl
        cases hdigits
      have hprefixed : evmNamespace ++ name ≠ "" := by
        intro h
        simpa [evmNamespace] using congrArg String.toList h
      exact ⟨fun h => absurd h hprefixed, fun h => absurd h hname⟩
    · exact Iff.rfl

theorem isMeaning_normalizeChain : Text.IsMeaning normalizeChain where
  trim_eq s := by
    unfold normalizeChain Text.fold
    rw [Text.trim_trim]
  empty_iff s := by
    unfold normalizeChain Text.fold
    rw [normalizeFolded_eq_empty_iff, Text.lower_eq_empty_iff]

/-! ## Bridges -/

/-- Two requests for a bridge that ask for the same route of the same amount. -/
structure BridgeRequest.Alike (r s : BridgeRequest) : Prop where
  fromChain : normalizeChain r.fromChain = normalizeChain s.fromChain
  toChain : normalizeChain r.toChain = normalizeChain s.toChain
  asset : Text.assetLetters r.asset = Text.assetLetters s.asset
  amount : r.amount = s.amount
  providers : r.providers = s.providers
  strategy : r.strategy = s.strategy

theorem requireText_congr {meaning : String → String} (hmeaning : Text.IsMeaning meaning)
    (field : String) {s t : String} (h : meaning s = meaning t) :
    requireText field s = requireText field t := by
  unfold requireText
  rw [hmeaning.isAllBlank_eq h]

theorem sameLetters_trim (row given : String) :
    Text.sameLetters row (Text.trim given) = (Text.asciiLower row == Text.assetLetters given) := rfl

theorem bridgeRows_congr (tables : Tables) {r s : BridgeRequest} (h : r.Alike s) :
    tables.bridgeRows r.fromChain r.toChain r.asset =
      tables.bridgeRows s.fromChain s.toChain s.asset := by
  refine List.filter_congr fun row _ => ?_
  unfold BridgeRow.serves
  simp only [sameLetters_trim, h.fromChain, h.toChain, h.asset]

/-- Alike requests have one answer, refusals included. -/
theorem quoteBridge_congr (tables : Tables) {r s : BridgeRequest} (h : r.Alike s) :
    quoteBridge tables r = quoteBridge tables s := by
  unfold quoteBridge
  rw [requireText_congr isMeaning_normalizeChain "from" h.fromChain,
    requireText_congr isMeaning_normalizeChain "to" h.toChain,
    requireText_congr Text.isMeaning_assetLetters "asset" h.asset, bridgeRows_congr tables h,
    h.fromChain, h.toChain, h.amount, h.providers, h.strategy]

/-! ## Swaps -/

/-- Two requests for a swap that ask for the same trade of the same amount. -/
structure SwapRequest.Alike (r s : SwapRequest) : Prop where
  chain : normalizeChain r.chain = normalizeChain s.chain
  fromAsset : Text.assetLetters r.fromAsset = Text.assetLetters s.fromAsset
  toAsset : Text.assetLetters r.toAsset = Text.assetLetters s.toAsset
  amount : r.amount = s.amount
  tradeType : r.tradeType = s.tradeType
  providers : r.providers = s.providers
  strategy : r.strategy = s.strategy
  slippage : r.slippagePct.map Number.Binary64.unsignedZero =
    s.slippagePct.map Number.Binary64.unsignedZero

theorem swapRows_congr (tables : Tables) {r s : SwapRequest} (h : r.Alike s) :
    tables.swapRows r.chain r.fromAsset r.toAsset r.tradeType =
      tables.swapRows s.chain s.fromAsset s.toAsset s.tradeType := by
  refine List.filter_congr fun row _ => ?_
  unfold SwapRow.serves
  simp only [sameLetters_trim, h.chain, h.fromAsset, h.toAsset, h.tradeType]

def SameKind (a b : Fault) : Prop := a.kind = b.kind

theorem SameKind.refl (a : Fault) : SameKind a a := rfl

theorem sameEnd_resolveExactOutput {chain chain' : String}
    (h : normalizeChain chain = normalizeChain chain') (c : Constraint) :
    SameEnd Eq SameKind (resolveExactOutput chain c) (resolveExactOutput chain' c) := by
  have hevm : isEvmChain chain = isEvmChain chain' := by
    unfold isEvmChain
    rw [h]
  unfold resolveExactOutput
  rw [hevm]
  -- Only the refusal of the chain repeats how it was given.
  cases isEvmChain chain' with
  | false => exact .error rfl
  | true => exact SameEnd.refl SameKind.refl _

theorem sameEnd_resolve {r s : SwapRequest} (h : r.Alike s) :
    SameEnd Eq SameKind r.resolve s.resolve := by
  unfold SwapRequest.resolve
  rw [h.tradeType, h.providers]
  cases s.tradeType with
  | exactInput => exact SameEnd.refl SameKind.refl _
  | exactOutput => exact sameEnd_resolveExactOutput h.chain s.providers

/-- A slippage that passes its check is positive, so only one that does not may be either zero. -/
theorem sameEnd_checkSlippage {pct pct' : Option Number.Binary64}
    (h : pct.map Number.Binary64.unsignedZero = pct'.map Number.Binary64.unsignedZero)
    (c : Constraint) :
    SameEnd (fun _ _ => pct = pct') SameKind (checkSlippage pct c) (checkSlippage pct' c) := by
  cases pct with
  | none =>
    obtain rfl := Option.map_eq_none_iff.mp h.symm
    exact .ok rfl
  | some x =>
    obtain ⟨y, rfl, hxy⟩ := Option.map_eq_some_iff.mp h.symm
    have hpositive : y.isPositive = x.isPositive := by
      rw [← Number.Binary64.isPositive_unsignedZero y, hxy,
        Number.Binary64.isPositive_unsignedZero x]
    cases hx : x.isPositive with
    | true =>
      rw [hx] at hpositive
      rw [Number.Binary64.unsignedZero_of_isPositive hx,
        Number.Binary64.unsignedZero_of_isPositive hpositive] at hxy
      subst hxy
      cases checkSlippage (some y) c with
      | ok _ => exact .ok rfl
      | error fault => exact .error rfl
    | false =>
      rw [hx] at hpositive
      unfold checkSlippage
      simp only [hx, hpositive, Bool.false_and, Bool.not_false, if_true]
      exact .error rfl

/-- Alike requests have one answer, or are refused with faults of one kind. -/
theorem sameEnd_quoteSwap (tables : Tables) {r s : SwapRequest} (h : r.Alike s) :
    SameEnd Eq SameKind (quoteSwap tables r) (quoteSwap tables s) := by
  unfold quoteSwap
  rw [requireText_congr isMeaning_normalizeChain "chain" h.chain,
    requireText_congr Text.isMeaning_assetLetters "fromAsset" h.fromAsset,
    requireText_congr Text.isMeaning_assetLetters "toAsset" h.toAsset, swapRows_congr tables h]
  apply SameEnd.bind (SameEnd.refl SameKind.refl _)
  intro _ _ _
  apply SameEnd.bind (SameEnd.refl SameKind.refl _)
  intro _ _ _
  apply SameEnd.bind (SameEnd.refl SameKind.refl _)
  intro _ _ _
  apply SameEnd.bind (sameEnd_resolve h)
  rintro resolved _ rfl
  rw [h.providers]
  apply SameEnd.bind (sameEnd_checkSlippage h.slippage s.providers)
  intro _ _ hslippage
  rw [h.chain, h.amount, h.tradeType, h.strategy, hslippage]
  exact SameEnd.refl SameKind.refl _

end Quote
end RelayDesk
