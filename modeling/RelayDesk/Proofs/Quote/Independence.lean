import RelayDesk.Proofs.Quote.Bridge
import RelayDesk.Proofs.Quote.Provider
import RelayDesk.Proofs.Quote.Swap

/-!
What the choice of a row does not depend on.  Rows that were not chosen may be left out, and then
the same row is chosen at the same price, also where the rows left out were of other providers or
fixed a preference's position.  Rows may be put in another order, and then a row that is as good is
chosen, since only ties are settled by the order.
-/

namespace RelayDesk
namespace Quote

/-- A choice among rows that depends neither on the rows that it passes over nor on the order of the
rows.  Equal rows cannot be told apart, and of several the choice takes the first, so that is the one
that stays where it is when others are left out. -/
structure IsIndependent {ρ : Type} (select : List ρ → Except Fault (Priced ρ))
    (SameEconomics : Priced ρ → Priced ρ → Prop) : Prop where
  mem_of_ok : ∀ {rows : List ρ} {p : Priced ρ}, select rows = .ok p → p.row ∈ rows
  of_fewer : ∀ {before after before' after' : List ρ} {p : Priced ρ},
    select (before ++ p.row :: after) = .ok p → p.row ∉ before →
    before'.Sublist before → after'.Sublist after →
    select (before' ++ p.row :: after') = .ok p
  of_perm : ∀ {rows rows' : List ρ} {p : Priced ρ}, select rows = .ok p → rows'.Perm rows →
    ∃ q, select rows' = .ok q ∧ SameEconomics q p

section Choice

variable {ρ : Type} {cannotPrice : ρ → Prop} {better : ρ → ρ → Prop} {IsPrice : Priced ρ → Prop}
  {usable usable' : List ρ} {reason reason' : NoRoute} {p : Priced ρ}
  {result : Except Fault (Priced ρ)}

namespace Selects

/-- Where some of the rows are left, the first best one among them, the choice is the same. -/
theorem eq_of_fewer (h : Selects cannotPrice better IsPrice usable reason (.ok p))
    (h' : Selects cannotPrice better IsPrice usable' reason' result) (hsub : usable' ⊆ usable)
    (hbest : IsFirstBest better usable' p.row)
    (hprice : ∀ q, IsPrice p → IsPrice q → p.row = q.row → p = q) : result = .ok p := by
  obtain ⟨q, hq, hbest', hprice'⟩ := h'.exists_ok (List.ne_nil_of_mem hbest.mem)
    fun row hrow => h.priced_of_ok row (hsub hrow)
  rw [hq, hprice q h.of_ok.2 hprice' (hbest.unique hbest')]

/-- Where the rows are in another order, the choice is a row that neither beats the other one nor is
beaten by it. -/
theorem exists_of_perm (h : Selects cannotPrice better IsPrice usable reason (.ok p))
    (h' : Selects cannotPrice better IsPrice usable' reason' result) (hperm : usable'.Perm usable) :
    ∃ q, result = .ok q ∧ IsPrice q ∧ ¬ better p.row q.row ∧ ¬ better q.row p.row := by
  obtain ⟨hbest, -⟩ := h.of_ok
  have hmem : p.row ∈ usable' := hperm.mem_iff.mpr hbest.mem
  obtain ⟨q, hq, hbest', hprice'⟩ := h'.exists_ok (List.ne_nil_of_mem hmem)
    fun row hrow => h.priced_of_ok row (hperm.mem_iff.mp hrow)
  exact ⟨q, hq, hprice', hbest'.unbeaten p.row hmem,
    hbest.unbeaten q.row (hperm.mem_iff.mp hbest'.mem)⟩

end Selects

/-- A choice among the rows that a constraint keeps and that are usable is independent, if a row has
one price and rows of which neither is better have the same economics. -/
theorem isIndependent_of_selects [HasProvider ρ] {c : Constraint} {isUsable : ρ → Bool}
    {select : List ρ → Except Fault (Priced ρ)} {reasonOf : List ρ → NoRoute}
    {SameEconomics : Priced ρ → Priced ρ → Prop}
    (hselects : ∀ rows, Selects cannotPrice better IsPrice ((c.keep rows).filter isUsable)
      (reasonOf rows) (select rows))
    (hprice : ∀ p q, IsPrice p → IsPrice q → p.row = q.row → p = q)
    (hsame : ∀ p q, IsPrice p → IsPrice q → ¬ better p.row q.row → ¬ better q.row p.row →
      SameEconomics q p) : IsIndependent select SameEconomics := by
  have hchosen : ∀ {rows : List ρ} {p : Priced ρ}, select rows = .ok p →
      p.row ∈ (c.keep rows).filter isUsable := fun {rows p} hok =>
    (hok ▸ hselects rows).of_ok.1.mem
  have hmem : ∀ {rows : List ρ} {p : Priced ρ}, select rows = .ok p → p.row ∈ rows :=
    fun hok => Constraint.mem_of_mem_keep (List.mem_filter.mp (hchosen hok)).1
  refine ⟨hmem, fun {before after before' after' p} hok hfirst hbefore hafter => ?_,
    fun {rows rows' p} hok hperm => ?_⟩
  · obtain ⟨test, hpass, htest⟩ := Constraint.exists_test (hchosen hok)
    have hsub : (before' ++ p.row :: after').Sublist (before ++ p.row :: after) :=
      hbefore.append (hafter.cons_cons p.row)
    have h := hselects (before ++ p.row :: after)
    have h' := hselects (before' ++ p.row :: after')
    rw [hok, htest _ (List.Subset.refl _) (hmem hok), List.filter_append,
      List.filter_cons_of_pos hpass] at h
    rw [htest _ hsub.subset (by simp), List.filter_append, List.filter_cons_of_pos hpass] at h'
    have hbest := h.of_ok.1.of_fewer (fun hin => hfirst (List.mem_filter.mp hin).1)
      (hbefore.filter test).subset (hafter.filter test).subset
    exact h.eq_of_fewer h' ((hbefore.filter test).append
      ((hafter.filter test).cons_cons p.row)).subset hbest (hprice p)
  · obtain ⟨test, -, htest⟩ := Constraint.exists_test (hchosen hok)
    have h := hselects rows
    have h' := hselects rows'
    rw [hok, htest rows (List.Subset.refl _) (hmem hok)] at h
    rw [htest rows' hperm.subset (hperm.mem_iff.mpr (hmem hok))] at h'
    obtain ⟨q, hq, hprice', hpq, hqp⟩ := h.exists_of_perm h' (hperm.filter test)
    exact ⟨q, hq, hsame p q h.of_ok.2 hprice' hpq hqp⟩

end Choice

/-! ## Bridges -/

section Bridges

variable {amount : Amount} {p q : Priced BridgeRow} {strategy : BridgeStrategy}

/-- As much arrives, in the same time. -/
def SameArrival (p q : Priced BridgeRow) : Prop :=
  p.output = q.output ∧ p.row.etaSeconds = q.row.etaSeconds

theorem IsBridgePrice.eq_of_row (hp : IsBridgePrice amount p) (hq : IsBridgePrice amount q)
    (h : p.row = q.row) : p = q := by
  have hinput : p.input = q.input := hp.input_eq.trans hq.input_eq.symm
  have houtput : p.output = q.output :=
    Amount.eq_of_val_eq (by rw [hp.output_eq, hq.output_eq, h])
  cases p
  cases q
  cases h
  cases hinput
  cases houtput
  rfl

theorem sameArrival_of_tie (hp : IsBridgePrice amount p) (hq : IsBridgePrice amount q)
    (hpq : ¬ strategy.Prefers amount.val p.row q.row)
    (hqp : ¬ strategy.Prefers amount.val q.row p.row) : SameArrival q p := by
  rw [prefers_iff_bridgeKey_lt hp hq, not_lt] at hpq
  rw [prefers_iff_bridgeKey_lt hq hp, not_lt] at hqp
  have hkey : bridgeKey strategy q = bridgeKey strategy p := le_antisymm hpq hqp
  have hboth : q.output.val = p.output.val ∧ q.row.etaSeconds = p.row.etaSeconds := by
    cases strategy with
    | bestOut => simpa [bridgeKey] using hkey
    | fastest => simpa [bridgeKey, and_comm] using hkey
  exact ⟨Amount.eq_of_val_eq hboth.1, hboth.2⟩

end Bridges

/-! ## Swaps -/

section Swaps

variable {amount : Amount} {tradeType : TradeType} {p q : Priced SwapRow} {strategy : SwapStrategy}

/-- The same amounts go in and come out, under the same fee and impact. -/
def SameTerms (p q : Priced SwapRow) : Prop :=
  p.input = q.input ∧ p.output = q.output ∧ p.row.feeBps = q.row.feeBps ∧
    p.row.impactBps = q.row.impactBps

theorem IsSwapPrice.eq_of_row (hp : IsSwapPrice amount tradeType p)
    (hq : IsSwapPrice amount tradeType q) (h : p.row = q.row) : p = q := by
  have hinput : p.input = q.input := Amount.eq_of_val_eq (by rw [hp.input_eq, hq.input_eq, h])
  have houtput : p.output = q.output :=
    Amount.eq_of_val_eq (by rw [hp.output_eq, hq.output_eq, h])
  cases p
  cases q
  cases h
  cases hinput
  cases houtput
  rfl

/-- The amount that the trade fixes is the same anyway, so the other one decides. -/
theorem amounts_eq_of_amountKey_eq (hp : IsSwapPrice amount tradeType p)
    (hq : IsSwapPrice amount tradeType q) (h : amountKey tradeType p = amountKey tradeType q) :
    p.input = q.input ∧ p.output = q.output := by
  have hpin := hp.input_eq
  have hqin := hq.input_eq
  have hpout := hp.output_eq
  have hqout := hq.output_eq
  cases tradeType with
  | exactInput =>
    have hkey : -(p.output.val : Int) = -q.output.val := h
    exact ⟨Amount.eq_of_val_eq (hpin.trans hqin.symm), Amount.eq_of_val_eq (by omega)⟩
  | exactOutput =>
    have hkey : (p.input.val : Int) = q.input.val := h
    exact ⟨Amount.eq_of_val_eq (by omega), Amount.eq_of_val_eq (hpout.trans hqout.symm)⟩

theorem sameTerms_of_tie (hp : IsSwapPrice amount tradeType p) (hq : IsSwapPrice amount tradeType q)
    (hpq : ¬ strategy.Prefers tradeType amount.val p.row q.row)
    (hqp : ¬ strategy.Prefers tradeType amount.val q.row p.row) : SameTerms q p := by
  rw [prefers_iff_swapKey_lt strategy hp hq, not_lt] at hpq
  rw [prefers_iff_swapKey_lt strategy hq hp, not_lt] at hqp
  have hkey : swapKey strategy tradeType q = swapKey strategy tradeType p := le_antisymm hpq hqp
  obtain ⟨hamount, hfee, himpact⟩ : amountKey tradeType q = amountKey tradeType p ∧
      q.row.feeBps = p.row.feeBps ∧ q.row.impactBps = p.row.impactBps := by
    cases strategy with
    | bestOut => simpa [swapKey] using hkey
    | lowestFee =>
      obtain ⟨hfee, himpact, hamount⟩ : q.row.feeBps = p.row.feeBps ∧
          q.row.impactBps = p.row.impactBps ∧ amountKey tradeType q = amountKey tradeType p := by
        simpa [swapKey] using hkey
      exact ⟨hamount, hfee, himpact⟩
  obtain ⟨hinput, houtput⟩ := amounts_eq_of_amountKey_eq hq hp hamount
  exact ⟨hinput, houtput, hfee, himpact⟩

end Swaps

/-- The choices of a bridge row and of a swap row are independent of the rows that are not chosen
and of the order of the rows, for every amount, constraint and strategy and in both directions of a
trade. -/
theorem selection_independent (amount : Amount) (c : Constraint) :
    (∀ strategy, IsIndependent (selectBridge · amount c strategy) SameArrival) ∧
      ∀ tradeType strategy,
        IsIndependent (selectSwap · amount tradeType c strategy) SameTerms := by
  constructor
  · intro strategy
    have hselects : ∀ rows, Selects (fun row => 2 ^ 256 ≤ amount.val * row.feeBps)
        (strategy.Prefers amount.val) (IsBridgePrice amount) ((c.keep rows).filter fun _ => true)
        (noRoute rows.length c) (selectBridge rows amount c strategy) := by
      intro rows
      rw [List.filter_true]
      exact selects_selectBridge rows amount c strategy
    exact isIndependent_of_selects hselects (fun p q => IsBridgePrice.eq_of_row)
      fun p q hp hq => sameArrival_of_tie hp hq
  · intro tradeType strategy
    exact isIndependent_of_selects (fun rows => selects_selectSwap rows amount tradeType c strategy)
      (fun p q => IsSwapPrice.eq_of_row) fun p q hp hq => sameTerms_of_tie hp hq

/-- A row of the preferred provider at its price for four million units. -/
def acrossTaken : Priced BridgeRow where
  row := ⟨"across", "eip155:1", "eip155:8453", "USDC", 5, 90⟩
  input := ⟨4000000, by decide⟩
  output := ⟨3998000, by decide⟩

def hopBridge : BridgeRow := ⟨"hop", "eip155:1", "eip155:8453", "USDC", 30, 300⟩

/-- Rows behind it: a faster one of another provider, and one that is as good. -/
def behindAcross : List BridgeRow :=
  [⟨"stargate", "eip155:1", "eip155:8453", "USDC", 5, 45⟩,
   ⟨"Across", "eip155:1", "eip155:8453", "USDC", 5, 90⟩]

def acrossFirst : Constraint := { exact := none, priority := ["across", "hop"] }

theorem across_chosen_alone_and_from_the_back :
    selectBridge ([hopBridge] ++ acrossTaken.row :: behindAcross) acrossTaken.input acrossFirst
        .bestOut = .ok acrossTaken ∧
      selectBridge ([] ++ acrossTaken.row :: []) acrossTaken.input acrossFirst .bestOut =
        .ok acrossTaken ∧
      ∃ q, selectBridge ([hopBridge] ++ acrossTaken.row :: behindAcross).reverse acrossTaken.input
        acrossFirst .bestOut = .ok q ∧ SameArrival q acrossTaken := by
  have hchosen : selectBridge ([hopBridge] ++ acrossTaken.row :: behindAcross) acrossTaken.input
      acrossFirst .bestOut = .ok acrossTaken := by decide
  have hindependent := (selection_independent acrossTaken.input acrossFirst).1 .bestOut
  exact ⟨hchosen,
    hindependent.of_fewer hchosen (by decide) (List.nil_sublist _) (List.nil_sublist _),
    hindependent.of_perm hchosen (List.reverse_perm _)⟩

end Quote
end RelayDesk
