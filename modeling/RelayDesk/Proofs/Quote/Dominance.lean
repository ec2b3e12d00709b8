import RelayDesk.Proofs.Quote.Swap

/-!
Swap rows that another one makes pointless.  A row that takes no more than another one in its fee
and its impact never comes out worse, whatever the rounding does to small amounts, and where it does
not come out better the lower fee and impact decide.  So the row that is chosen is one that no usable
row undercuts.
-/

namespace RelayDesk
namespace Quote
namespace SwapRow

/-- The row takes no more of the fee and of the impact than the other, and less of one of them. -/
def Undercuts (a b : SwapRow) : Prop :=
  a.feeBps ≤ b.feeBps ∧ a.impactBps ≤ b.impactBps ∧
    (a.feeBps < b.feeBps ∨ a.impactBps < b.impactBps)

variable {a b : SwapRow} {tradeType : TradeType}

theorem canServe_iff :
    a.canServe tradeType = true ↔
      (tradeType = .exactOutput → a.feeBps < 10000 ∧ a.impactBps < 10000) := by
  cases tradeType with
  | exactInput => simp [canServe]
  | exactOutput => simp [canServe]

theorem output_exactInput_le (hfee : a.feeBps ≤ b.feeBps) (himpact : a.impactBps ≤ b.impactBps)
    (amount : Nat) : b.output amount .exactInput ≤ a.output amount .exactInput :=
  calc restAfter (restAfter amount b.feeBps) b.impactBps
      ≤ restAfter (restAfter amount a.feeBps) b.impactBps :=
        restAfter_mono (restAfter_anti hfee amount) _
    _ ≤ restAfter (restAfter amount a.feeBps) a.impactBps := restAfter_anti himpact _

/-- A row that takes no more than another one has the better amount or the same. -/
theorem hasBetterAmount_or_same (hfee : a.feeBps ≤ b.feeBps) (himpact : a.impactBps ≤ b.impactBps)
    (hserves : b.canServe tradeType = true) (amount : Nat) :
    a.HasBetterAmount tradeType amount b ∨ a.HasSameAmount tradeType amount b := by
  cases tradeType with
  | exactInput =>
    rcases Nat.lt_or_eq_of_le (output_exactInput_le hfee himpact amount) with hlt | heq
    · exact .inl hlt
    · exact .inr heq.symm
  | exactOutput =>
    obtain ⟨hfee', himpact'⟩ := canServe_iff.mp hserves rfl
    exact Nat.lt_or_eq_of_le (neededInput_mono hfee himpact hfee' himpact' amount)

theorem Undercuts.prefers (h : a.Undercuts b) (hserves : b.canServe tradeType = true)
    (strategy : SwapStrategy) (amount : Nat) : strategy.Prefers tradeType amount a b := by
  obtain ⟨hfee, himpact, hless⟩ := h
  have hrates : a.feeBps < b.feeBps ∨ a.feeBps = b.feeBps ∧ a.impactBps < b.impactBps := by omega
  cases strategy with
  | bestOut =>
    exact (hasBetterAmount_or_same hfee himpact hserves amount).imp_right fun hsame =>
      ⟨hsame, hrates⟩
  | lowestFee => exact hrates.imp_right fun ⟨hsame, hlt⟩ => ⟨hsame, .inl hlt⟩

end SwapRow

/-- No row that the constraint keeps, and that can give an exact output where one is asked for,
undercuts the row that is chosen, under either strategy and in either direction of the trade. -/
theorem selectSwap_not_undercut {rows : List SwapRow} {amount : Amount} {tradeType : TradeType}
    {c : Constraint} {strategy : SwapStrategy} {p : Priced SwapRow}
    (h : selectSwap rows amount tradeType c strategy = .ok p) :
    ∀ row ∈ c.keep rows,
      (tradeType = .exactOutput → row.feeBps < 10000 ∧ row.impactBps < 10000) →
      ¬ row.Undercuts p.row := by
  intro row hkept hserves hunder
  have hselects := selects_selectSwap rows amount tradeType c strategy
  rw [h] at hselects
  obtain ⟨hbest, -⟩ := hselects.of_ok
  have husable : row ∈ usableRows c tradeType rows :=
    List.mem_filter.mpr ⟨hkept, SwapRow.canServe_iff.mpr hserves⟩
  have hchosen : p.row.canServe tradeType = true := (List.mem_filter.mp hbest.mem).2
  exact hbest.unbeaten row husable (hunder.prefers hchosen strategy amount.val)

/-- Rows that all give ten of ten units, and one that takes more than there is. -/
def flatRows : List SwapRow :=
  [⟨"a", "eip155:1", "ETH", "USDC", .exactInput, 40, 0⟩,
   ⟨"b", "eip155:1", "ETH", "USDC", .exactInput, 20, 7⟩,
   ⟨"c", "eip155:1", "ETH", "USDC", .exactInput, 20, 3⟩,
   ⟨"d", "eip155:1", "ETH", "USDC", .exactInput, 20000, 0⟩]

theorem lowest_rates_of_equal_outputs_chosen :
    selectSwap flatRows ⟨10, by decide⟩ .exactInput .none .bestOut =
        .ok ⟨⟨"c", "eip155:1", "ETH", "USDC", .exactInput, 20, 3⟩, ⟨10, by decide⟩,
          ⟨10, by decide⟩⟩ ∧
      ⟨"b", "eip155:1", "ETH", "USDC", .exactInput, 20, 7⟩ ∈ Constraint.none.keep flatRows ∧
      ¬ SwapRow.Undercuts ⟨"b", "eip155:1", "ETH", "USDC", .exactInput, 20, 7⟩
        ⟨"c", "eip155:1", "ETH", "USDC", .exactInput, 20, 3⟩ := by
  have hchosen : selectSwap flatRows ⟨10, by decide⟩ .exactInput .none .bestOut =
      .ok ⟨⟨"c", "eip155:1", "ETH", "USDC", .exactInput, 20, 3⟩, ⟨10, by decide⟩,
        ⟨10, by decide⟩⟩ := by decide
  have hkept : (⟨"b", "eip155:1", "ETH", "USDC", .exactInput, 20, 7⟩ : SwapRow) ∈
      Constraint.none.keep flatRows := by decide
  exact ⟨hchosen, hkept, selectSwap_not_undercut hchosen _ hkept nofun⟩

end Quote
end RelayDesk
