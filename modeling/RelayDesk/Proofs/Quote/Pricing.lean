import Mathlib.Algebra.Order.Floor.Div
import RelayDesk.Proofs.Except
import RelayDesk.Quote.Amount

/-!
Fees as arithmetic of natural numbers.  Each computation on amounts gives the number that exact
arithmetic gives, or refuses because a product does not fit, and never anything else.
-/

namespace RelayDesk
namespace Quote

/-- What is left of an amount after a fee in basis points.  The fee is rounded down, and one above
the whole leaves nothing. -/
def restAfter (amount bps : Nat) : Nat := amount - amount * bps / 10000

/-- The input that gives an output after a fee and an impact below the whole, rounded up. -/
def neededInput (output feeBps impactBps : Nat) : Nat :=
  output * 10 ^ 8 ⌈/⌉ ((10000 - feeBps) * (10000 - impactBps))

/-! ## Rounding -/

/-- A division that leaves a rest is rounded up by one. -/
theorem ceilDiv_eq_ite {n : Nat} (hn : 0 < n) (a : Nat) :
    a ⌈/⌉ n = if a % n = 0 then a / n else a / n + 1 := by
  have hdiv := Nat.div_add_mod a n
  have hlt := Nat.mod_lt a hn
  have hsucc : n * (a / n + 1) = n * (a / n) + n := Nat.mul_succ n (a / n)
  refine le_antisymm ((ceilDiv_le_iff_le_mul hn).mpr ?_) ?_
  · split <;> omega
  · have hle : a ≤ n * (a ⌈/⌉ n) := le_smul_ceilDiv hn
    split
    · exact Nat.div_le_of_le_mul hle
    · next hrest =>
      refine Nat.succ_le_of_lt (Nat.lt_of_mul_lt_mul_left (a := n) ?_)
      omega

theorem restAfter_of_le {bps : Nat} (h : bps ≤ 10000) (amount : Nat) :
    restAfter amount bps = amount * (10000 - bps) ⌈/⌉ 10000 := by
  have hsplit : amount * (10000 - bps) + amount * bps = amount * 10000 := by
    rw [← Nat.mul_add, Nat.sub_add_cancel h]
  unfold restAfter
  rw [Nat.ceilDiv_eq_add_pred_div]
  omega

theorem restAfter_of_ge {bps : Nat} (h : 10000 ≤ bps) (amount : Nat) :
    restAfter amount bps = 0 := by
  have hmul : amount * 10000 ≤ amount * bps := Nat.mul_le_mul_left amount h
  unfold restAfter
  omega

theorem restAfter_mono {amount amount' : Nat} (h : amount ≤ amount') (bps : Nat) :
    restAfter amount bps ≤ restAfter amount' bps := by
  rcases Nat.le_total bps 10000 with hbps | hbps
  · rw [restAfter_of_le hbps, restAfter_of_le hbps]
    exact (gc_mul_ceilDiv (by decide)).monotone_l (Nat.mul_le_mul_right _ h)
  · rw [restAfter_of_ge hbps]
    exact Nat.zero_le _

theorem restAfter_anti {bps bps' : Nat} (h : bps ≤ bps') (amount : Nat) :
    restAfter amount bps' ≤ restAfter amount bps := by
  have hmul : amount * bps ≤ amount * bps' := Nat.mul_le_mul_left amount h
  unfold restAfter
  omega

/-- A row that takes more of the fee or more of the impact needs the larger input. -/
theorem neededInput_mono {feeBps feeBps' impactBps impactBps' : Nat} (hfee : feeBps ≤ feeBps')
    (himpact : impactBps ≤ impactBps') (hfee' : feeBps' < 10000) (himpact' : impactBps' < 10000)
    (output : Nat) :
    neededInput output feeBps impactBps ≤ neededInput output feeBps' impactBps' := by
  have hpos : 0 < (10000 - feeBps') * (10000 - impactBps') :=
    Nat.mul_pos (Nat.sub_pos_of_lt hfee') (Nat.sub_pos_of_lt himpact')
  have hshare : (10000 - feeBps') * (10000 - impactBps') ≤
      (10000 - feeBps) * (10000 - impactBps) :=
    Nat.mul_le_mul (Nat.sub_le_sub_left hfee _) (Nat.sub_le_sub_left himpact _)
  unfold neededInput
  rw [ceilDiv_le_iff_le_mul (Nat.lt_of_lt_of_le hpos hshare)]
  calc output * 10 ^ 8
      ≤ (10000 - feeBps') * (10000 - impactBps') *
          (output * 10 ^ 8 ⌈/⌉ ((10000 - feeBps') * (10000 - impactBps'))) := le_smul_ceilDiv hpos
    _ ≤ _ := Nat.mul_le_mul_right _ hshare

namespace Amount

theorem eq_of_val_eq {a b : Amount} (h : a.val = b.val) : a = b := by
  cases a
  cases b
  cases h
  rfl

theorem ofNat?_of_lt {n : Nat} (h : n < 2 ^ 256) : ofNat? n = some ⟨n, h⟩ := dif_pos h

theorem ofNat?_of_le {n : Nat} (h : 2 ^ 256 ≤ n) : ofNat? n = none := dif_neg (Nat.not_lt.mpr h)

theorem val_dividedUpBy {n : Nat} (hn : 0 < n) (a : Amount) :
    (a.dividedUpBy n).val = a.val ⌈/⌉ n := by
  rw [ceilDiv_eq_ite hn]
  unfold dividedUpBy
  split
  · rfl
  · -- A rest leaves room for one more, so the quotient is never the last amount.
    have hdiv := Nat.div_add_mod a.val n
    have hmul : a.val / n ≤ n * (a.val / n) := Nat.le_mul_of_pos_left _ hn
    have hlt : a.val / n + 1 < amountLimit := by
      have := a.val_lt
      omega
    exact Nat.mod_eq_of_lt hlt

end Amount

variable {a : Amount} {bps feeBps impactBps : Nat}

theorem deductBps_of_lt (h : a.val * bps < 2 ^ 256) :
    ∃ rest, deductBps a bps = .ok rest ∧ rest.val = restAfter a.val bps := by
  refine ⟨a.minus (Amount.dividedBy ⟨a.val * bps, h⟩ bpsWhole), ?_, rfl⟩
  unfold deductBps bpsPart Amount.times?
  rw [Amount.ofNat?_of_lt h]
  rfl

theorem deductBps_of_le (h : 2 ^ 256 ≤ a.val * bps) :
    deductBps a bps = .error (.overflow .amountByBps) := by
  unfold deductBps bpsPart Amount.times?
  rw [Amount.ofNat?_of_le h]
  rfl

theorem swapOutput_of_lt (hfee : a.val * feeBps < 2 ^ 256)
    (himpact : restAfter a.val feeBps * impactBps < 2 ^ 256) :
    ∃ output, swapOutput a feeBps impactBps = .ok output ∧
      output.val = restAfter (restAfter a.val feeBps) impactBps := by
  obtain ⟨rest, hrest, hval⟩ := deductBps_of_lt hfee
  rw [← hval] at himpact ⊢
  obtain ⟨output, houtput, hout⟩ := deductBps_of_lt himpact
  refine ⟨output, ?_, hout⟩
  unfold swapOutput
  rw [hrest, ok_bind, houtput]

theorem swapOutput_of_le
    (h : 2 ^ 256 ≤ a.val * feeBps ∨ 2 ^ 256 ≤ restAfter a.val feeBps * impactBps) :
    swapOutput a feeBps impactBps = .error (.overflow .amountByBps) := by
  unfold swapOutput
  rcases Nat.lt_or_ge (a.val * feeBps) (2 ^ 256) with hfee | hfee
  · have himpact := h.resolve_left (Nat.not_le.mpr hfee)
    obtain ⟨rest, hrest, hval⟩ := deductBps_of_lt hfee
    rw [← hval] at himpact
    rw [hrest, ok_bind, deductBps_of_le himpact]
  · rw [deductBps_of_le hfee, error_bind]

theorem swapInput_of_whole (h : ¬ (feeBps < 10000 ∧ impactBps < 10000)) :
    swapInput a feeBps impactBps = .ok none := if_neg h

theorem swapInput_of_lt (hfee : feeBps < 10000) (himpact : impactBps < 10000)
    (h : a.val * 10 ^ 8 < 2 ^ 256) :
    ∃ input, swapInput a feeBps impactBps = .ok (some input) ∧
      input.val = neededInput a.val feeBps impactBps := by
  have hpos : 0 < (10000 - feeBps) * (10000 - impactBps) :=
    Nat.mul_pos (Nat.sub_pos_of_lt hfee) (Nat.sub_pos_of_lt himpact)
  refine ⟨Amount.dividedUpBy ⟨a.val * 10 ^ 8, h⟩ ((10000 - feeBps) * (10000 - impactBps)), ?_,
    Amount.val_dividedUpBy hpos _⟩
  have hscaled : a.times? (bpsWhole * bpsWhole) = some ⟨a.val * 10 ^ 8, h⟩ :=
    Amount.ofNat?_of_lt h
  unfold swapInput
  rw [if_pos ⟨hfee, himpact⟩, hscaled]
  rfl

theorem swapInput_of_le (hfee : feeBps < 10000) (himpact : impactBps < 10000)
    (h : 2 ^ 256 ≤ a.val * 10 ^ 8) :
    swapInput a feeBps impactBps = .error (.overflow .outputByScale) := by
  have hscaled : a.times? (bpsWhole * bpsWhole) = none := Amount.ofNat?_of_le h
  unfold swapInput
  rw [if_pos ⟨hfee, himpact⟩, hscaled]

end Quote
end RelayDesk
