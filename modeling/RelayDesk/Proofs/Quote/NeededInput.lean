import Mathlib
import RelayDesk.Proofs.Quote.Pricing

/-!
The input that an exact output needs.  It is computed by one division that is rounded up, while a
swap of that input is charged twice, with a rounding each time.  The swap gives the output all the
same, and at most two units more.
-/

namespace RelayDesk
namespace Quote

/-- Rounding up adds less than a whole divisor. -/
theorem mul_ceilDiv_lt {n : Nat} (hn : 0 < n) (a : Nat) : n * (a ⌈/⌉ n) < a + n := by
  have hle : n * ((a + n - 1) / n) ≤ a + n - 1 := Nat.mul_div_le _ _
  rw [Nat.ceilDiv_eq_add_pred_div]
  omega

/-! ## Charging the needed input

What the fee and the impact leave of ten thousand parts are `kept` and `kept'`.  The input is the
output over both, `rest` what the fee leaves of the input, and `back` what the impact leaves of
the rest, each of the three rounded up. -/

section RoundedUp

variable {output input rest back kept kept' : Nat}

theorem le_back_of_rounded_up (hinput : output * 10 ^ 8 ≤ kept * kept' * input)
    (hrest : input * kept ≤ 10000 * rest) (hback : rest * kept' ≤ 10000 * back) :
    output ≤ back := by
  have hscaled : output * 10 ^ 8 ≤ back * 10 ^ 8 := by
    calc output * 10 ^ 8
        ≤ kept * kept' * input := hinput
      _ = input * kept * kept' := by ring
      _ ≤ 10000 * rest * kept' := Nat.mul_le_mul_right _ hrest
      _ = 10000 * (rest * kept') := by ring
      _ ≤ 10000 * (10000 * back) := Nat.mul_le_mul_left _ hback
      _ = back * 10 ^ 8 := by ring
  exact Nat.le_of_mul_le_mul_right hscaled (by decide)

/-- Rounding the input up adds less than one unit to what comes back, and so does each rounding
behind it. -/
theorem back_le_of_rounded_up (hkept : kept ≤ 10000) (hkept' : kept' ≤ 10000)
    (hinput : kept * kept' * input < output * 10 ^ 8 + kept * kept')
    (hrest : 10000 * rest < input * kept + 10000)
    (hback : 10000 * back < rest * kept' + 10000) : back ≤ output + 2 := by
  have hproduct : kept * kept' ≤ 10000 * 10000 := Nat.mul_le_mul hkept hkept'
  have hcharged : 10000 * (rest * kept') ≤ kept * kept' * input + 9999 * 10000 := by
    calc 10000 * (rest * kept')
        = 10000 * rest * kept' := by ring
      _ ≤ (input * kept + 9999) * kept' := Nat.mul_le_mul_right _ (Nat.le_of_lt_succ hrest)
      _ = kept * kept' * input + 9999 * kept' := by ring
      _ ≤ kept * kept' * input + 9999 * 10000 :=
        Nat.add_le_add_left (Nat.mul_le_mul_left _ hkept') _
  omega

end RoundedUp

theorem restAfter_neededInput_bounds {feeBps impactBps : Nat} (hfee : feeBps < 10000)
    (himpact : impactBps < 10000) (output : Nat) :
    output ≤ restAfter (restAfter (neededInput output feeBps impactBps) feeBps) impactBps ∧
      restAfter (restAfter (neededInput output feeBps impactBps) feeBps) impactBps ≤
        output + 2 := by
  have hpos : 0 < (10000 - feeBps) * (10000 - impactBps) :=
    Nat.mul_pos (Nat.sub_pos_of_lt hfee) (Nat.sub_pos_of_lt himpact)
  have hwhole : 0 < 10000 := by decide
  rw [restAfter_of_le (Nat.le_of_lt hfee), restAfter_of_le (Nat.le_of_lt himpact)]
  constructor
  · exact le_back_of_rounded_up (le_smul_ceilDiv hpos) (le_smul_ceilDiv hwhole)
      (le_smul_ceilDiv hwhole)
  · exact back_le_of_rounded_up (Nat.sub_le _ _) (Nat.sub_le _ _) (mul_ceilDiv_lt hpos _)
      (mul_ceilDiv_lt hwhole _) (mul_ceilDiv_lt hwhole _)

/-! ## Amounts -/

variable {output : Amount} {feeBps impactBps : Nat}

theorem swapInput_eq_none_iff :
    swapInput output feeBps impactBps = .ok none ↔ 10000 ≤ feeBps ∨ 10000 ≤ impactBps := by
  constructor
  · intro h
    by_contra hbelow
    obtain ⟨hfee, himpact⟩ := not_or.mp hbelow
    rw [Nat.not_le] at hfee himpact
    rcases Nat.lt_or_ge (output.val * 10 ^ 8) (2 ^ 256) with hlt | hge
    · obtain ⟨input, hinput, -⟩ := swapInput_of_lt hfee himpact hlt
      rw [hinput] at h
      cases h
    · rw [swapInput_of_le hfee himpact hge] at h
      cases h
  · intro hwhole
    exact swapInput_of_whole (by omega)

theorem swapInput_refused_iff (hfee : feeBps < 10000) (himpact : impactBps < 10000) :
    (∃ cause, swapInput output feeBps impactBps = .error cause) ↔
      2 ^ 256 ≤ output.val * 10 ^ 8 := by
  rw [← Nat.not_lt]
  apply refused_iff_not
  · intro hlt
    obtain ⟨input, hinput, -⟩ := swapInput_of_lt hfee himpact hlt
    exact ⟨some input, hinput⟩
  · intro hge
    exact ⟨_, swapInput_of_le hfee himpact (Nat.le_of_not_lt hge)⟩

theorem val_of_swapOutput {input back : Amount}
    (h : swapOutput input feeBps impactBps = .ok back) :
    back.val = restAfter (restAfter input.val feeBps) impactBps := by
  have hok : input.val * feeBps < 2 ^ 256 ∧ restAfter input.val feeBps * impactBps < 2 ^ 256 →
      ∃ back, swapOutput input feeBps impactBps = .ok back ∧
        back.val = restAfter (restAfter input.val feeBps) impactBps :=
    fun hfits => swapOutput_of_lt hfits.1 hfits.2
  have hval := of_ok_of_refused hok (fun hover => ⟨_, swapOutput_of_le (by omega)⟩) h
  exact hval

/-- No input is enough exactly when the fee or the impact takes the whole.  Otherwise the needed
input is refused exactly when the scaled output goes past 256 bits, and else it is the exact
quotient rounded up.  A swap of that input, if its own products fit, gives the output that was asked
for and at most two units more. -/
theorem swapInput_exact (output : Amount) (feeBps impactBps : Nat) :
    (swapInput output feeBps impactBps = .ok none ↔ 10000 ≤ feeBps ∨ 10000 ≤ impactBps) ∧
    (feeBps < 10000 → impactBps < 10000 →
      ((∃ cause, swapInput output feeBps impactBps = .error cause) ↔
        2 ^ 256 ≤ output.val * 10 ^ 8) ∧
      (output.val * 10 ^ 8 < 2 ^ 256 →
        ∃ input, swapInput output feeBps impactBps = .ok (some input) ∧
          input.val = output.val * 10 ^ 8 ⌈/⌉ ((10000 - feeBps) * (10000 - impactBps)) ∧
          ∀ back, swapOutput input feeBps impactBps = .ok back →
            output.val ≤ back.val ∧ back.val ≤ output.val + 2)) := by
  refine ⟨swapInput_eq_none_iff, fun hfee himpact =>
    ⟨swapInput_refused_iff hfee himpact, fun hfits => ?_⟩⟩
  obtain ⟨input, hinput, hval⟩ := swapInput_of_lt hfee himpact hfits
  refine ⟨input, hinput, hval, fun back hback => ?_⟩
  rw [val_of_swapOutput hback, hval]
  exact restAfter_neededInput_bounds hfee himpact output.val

/-- For an output of two hundred units all three roundings add up to the two units. -/
theorem swap_of_needed_input_gives_two_more :
    30 < 10000 ∧ 20 < 10000 ∧ 200 * 10 ^ 8 < 2 ^ 256 ∧
      ∃ input back, swapInput ⟨200, by decide⟩ 30 20 = .ok (some input) ∧
        swapOutput input 30 20 = .ok back ∧
        input.val = 200 * 10 ^ 8 ⌈/⌉ ((10000 - 30) * (10000 - 20)) ∧
        200 ≤ back.val ∧ back.val ≤ 200 + 2 ∧ back.val = 202 := by
  obtain ⟨-, hquotes⟩ := swapInput_exact ⟨200, by decide⟩ 30 20
  obtain ⟨-, hfits⟩ := hquotes (by decide) (by decide)
  obtain ⟨input, hinput, hval, hback⟩ := hfits (by decide)
  have hanswer : swapInput ⟨200, by decide⟩ 30 20 = .ok (some ⟨202, by decide⟩) := by decide
  obtain rfl := Option.some.inj (Except.ok.inj (hanswer.symm.trans hinput))
  have hswap : swapOutput ⟨202, by decide⟩ 30 20 = .ok ⟨202, by decide⟩ := by decide
  obtain ⟨hle, hge⟩ := hback _ hswap
  exact ⟨by decide, by decide, by decide, _, _, hinput, hswap, hval, hle, hge, rfl⟩

end Quote
end RelayDesk
