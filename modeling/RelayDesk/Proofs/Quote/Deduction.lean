import Mathlib
import RelayDesk.Proofs.Quote.Pricing

/-!
Fees taken off an amount.  A deduction is refused exactly when its product goes past 256 bits, and
leaves the share that is kept, rounded up, in every other case.  A bridge takes one deduction and a
swap two, so what they give is exact as well, is never more than went in, grows with the amount and
shrinks with the rates.
-/

namespace RelayDesk
namespace Quote

/-! ## One deduction -/

section Deduction

variable {a : Amount} {bps : Nat}

theorem bpsPart_of_lt (h : a.val * bps < 2 ^ 256) :
    ∃ part, bpsPart a bps = .ok part ∧ part.val = a.val * bps / 10000 := by
  have hscaled : a.times? bps = some ⟨a.val * bps, h⟩ := Amount.ofNat?_of_lt h
  refine ⟨Amount.dividedBy ⟨a.val * bps, h⟩ bpsWhole, ?_, rfl⟩
  simp only [bpsPart, hscaled]

theorem bpsPart_of_le (h : 2 ^ 256 ≤ a.val * bps) :
    bpsPart a bps = .error (.overflow .amountByBps) := by
  have hscaled : a.times? bps = none := Amount.ofNat?_of_le h
  simp only [bpsPart, hscaled]

theorem bpsPart_refused_iff :
    (∃ cause, bpsPart a bps = .error cause) ↔ 2 ^ 256 ≤ a.val * bps :=
  refused_iff_le bpsPart_of_lt bpsPart_of_le

theorem deductBps_refused_iff :
    (∃ cause, deductBps a bps = .error cause) ↔ 2 ^ 256 ≤ a.val * bps :=
  refused_iff_le deductBps_of_lt deductBps_of_le

end Deduction

/-! ## Charges -/

/-- An output that is charged at rates.  It is refused where it does not fit, and otherwise what
exact arithmetic leaves of the amount; so it is within the amount, and ordered by amount and rates. -/
structure IsCharge {ρ : Type} [LE ρ] (output : Amount → ρ → Except Invalid Amount)
    (left : Nat → ρ → Nat) (fits : Nat → ρ → Prop) (withinWhole : ρ → Prop) : Prop where
  refused_iff : ∀ a rates, (∃ cause, output a rates = .error cause) ↔ ¬ fits a.val rates
  val_eq : ∀ {a rates out}, output a rates = .ok out → out.val = left a.val rates
  le_amount : ∀ {a rates out}, output a rates = .ok out → out.val ≤ a.val
  mono : ∀ {a b rates out out'}, a.val ≤ b.val → output a rates = .ok out →
    output b rates = .ok out' → out.val ≤ out'.val
  anti : ∀ {a rates rates' out out'}, rates ≤ rates' → output a rates = .ok out →
    output a rates' = .ok out' → out'.val ≤ out.val
  /-- The bound is the largest amount that is never refused at the whole. -/
  exists_ok : ∀ a rates, withinWhole rates → a.val ≤ (2 ^ 256 - 1) / 10000 →
    ∃ out, output a rates = .ok out

/-- The order of an output is that of what exact arithmetic leaves. -/
theorem isCharge_of_exact {ρ : Type} [LE ρ] {output : Amount → ρ → Except Invalid Amount}
    {left : Nat → ρ → Nat} {fits : Nat → ρ → Prop} {withinWhole : ρ → Prop}
    (hfits : ∀ a rates, fits a.val rates →
      ∃ out, output a rates = .ok out ∧ out.val = left a.val rates)
    (hrefused : ∀ a rates, ¬ fits a.val rates → ∃ cause, output a rates = .error cause)
    (hle : ∀ n rates, left n rates ≤ n)
    (hmono : ∀ {n m} rates, n ≤ m → left n rates ≤ left m rates)
    (hanti : ∀ n {rates rates'}, rates ≤ rates' → left n rates' ≤ left n rates)
    (hsmall : ∀ {n rates}, withinWhole rates → n ≤ (2 ^ 256 - 1) / 10000 → fits n rates) :
    IsCharge output left fits withinWhole := by
  have hval : ∀ {a rates out}, output a rates = .ok out → out.val = left a.val rates := by
    intro a rates out hout
    have hleft := of_ok_of_refused (hfits a rates) (hrefused a rates) hout
    exact hleft
  have hok : ∀ {a rates}, fits a.val rates → ∃ out, output a rates = .ok out := by
    intro a rates h
    obtain ⟨out, hout, -⟩ := hfits a rates h
    exact ⟨out, hout⟩
  constructor
  · exact fun a rates => refused_iff_not hok (hrefused a rates)
  · exact hval
  · intro a rates out hout
    rw [hval hout]
    exact hle a.val rates
  · intro a b rates out out' hab hout hout'
    rw [hval hout, hval hout']
    exact hmono rates hab
  · intro a rates rates' out out' hrates hout hout'
    rw [hval hout, hval hout']
    exact hanti a.val hrates
  · exact fun a rates hwhole ha => hok (hsmall hwhole ha)

/-- At most the whole of a small amount fits, however it is scaled. -/
theorem mul_bps_lt {n bps : Nat} (hn : n ≤ (2 ^ 256 - 1) / 10000) (hbps : bps ≤ 10000) :
    n * bps < 2 ^ 256 := by
  have hscaled : n * bps ≤ (2 ^ 256 - 1) / 10000 * 10000 := Nat.mul_le_mul hn hbps
  omega

theorem isCharge_bridgeOutput :
    IsCharge bridgeOutput restAfter (fun n feeBps => n * feeBps < 2 ^ 256) (· ≤ 10000) :=
  isCharge_of_exact (fun _ _ => deductBps_of_lt)
    (fun _ _ h => ⟨_, deductBps_of_le (Nat.le_of_not_lt h)⟩)
    (fun _ _ => Nat.sub_le _ _)
    (fun feeBps h => restAfter_mono h feeBps)
    (fun n _ _ h => restAfter_anti h n)
    (fun hwhole hn => mul_bps_lt hn hwhole)

/-- The rates of a swap are its fee and its impact. -/
theorem isCharge_swapOutput :
    IsCharge (fun a (rates : Nat × Nat) => swapOutput a rates.1 rates.2)
      (fun n rates => restAfter (restAfter n rates.1) rates.2)
      (fun n rates => n * rates.1 < 2 ^ 256 ∧ restAfter n rates.1 * rates.2 < 2 ^ 256)
      (fun rates => rates.1 ≤ 10000 ∧ rates.2 ≤ 10000) := by
  apply isCharge_of_exact
  · intro a rates h
    exact swapOutput_of_lt h.1 h.2
  · intro a rates h
    refine ⟨_, swapOutput_of_le ?_⟩
    omega
  · intro n rates
    exact Nat.le_trans (Nat.sub_le _ _) (Nat.sub_le _ _)
  · intro n m rates h
    exact restAfter_mono (restAfter_mono h rates.1) rates.2
  · intro n rates rates' h
    calc restAfter (restAfter n rates'.1) rates'.2
        ≤ restAfter (restAfter n rates'.1) rates.2 := restAfter_anti h.2 _
      _ ≤ restAfter (restAfter n rates.1) rates.2 := restAfter_mono (restAfter_anti h.1 n) _
  · intro n rates hwhole hn
    have hrest : restAfter n rates.1 ≤ (2 ^ 256 - 1) / 10000 := Nat.le_trans (Nat.sub_le _ _) hn
    exact ⟨mul_bps_lt hn hwhole.1, mul_bps_lt hrest hwhole.2⟩

/-- A part in basis points and what it leaves are refused exactly when the product does not fit in
256 bits.  Otherwise the part is rounded down, and what is left is the rest of ten thousand parts
rounded up, or nothing from the whole on.  The outputs of a bridge and of a swap are charges made
of such deductions. -/
theorem deductions_exact :
    (∀ (a : Amount) (bps : Nat),
      ((∃ cause, bpsPart a bps = .error cause) ↔ 2 ^ 256 ≤ a.val * bps) ∧
      ((∃ cause, deductBps a bps = .error cause) ↔ 2 ^ 256 ≤ a.val * bps) ∧
      (a.val * bps < 2 ^ 256 →
        (∃ part, bpsPart a bps = .ok part ∧ part.val = a.val * bps / 10000) ∧
        ∃ rest, deductBps a bps = .ok rest ∧
          (bps ≤ 10000 → rest.val = a.val * (10000 - bps) ⌈/⌉ 10000) ∧
          (10000 ≤ bps → rest.val = 0))) ∧
    IsCharge bridgeOutput restAfter (fun n feeBps => n * feeBps < 2 ^ 256)
      (fun feeBps => feeBps ≤ 10000) ∧
    IsCharge (fun a (rates : Nat × Nat) => swapOutput a rates.1 rates.2)
      (fun n rates => restAfter (restAfter n rates.1) rates.2)
      (fun n rates => n * rates.1 < 2 ^ 256 ∧ restAfter n rates.1 * rates.2 < 2 ^ 256)
      (fun rates => rates.1 ≤ 10000 ∧ rates.2 ≤ 10000) := by
  refine ⟨fun a bps => ⟨bpsPart_refused_iff, deductBps_refused_iff, fun hfits => ?_⟩,
    isCharge_bridgeOutput, isCharge_swapOutput⟩
  obtain ⟨rest, hrest, hval⟩ := deductBps_of_lt hfits
  refine ⟨bpsPart_of_lt hfits, rest, hrest, fun hbelow => ?_, fun habove => ?_⟩
  · rw [hval, restAfter_of_le hbelow]
  · rw [hval, restAfter_of_ge habove]

/-- The largest amount that is never refused loses nothing to overflow at the whole of fee and
impact, the next one is refused there, and a fee of thirty parts leaves of 999 what is kept,
rounded up. -/
theorem largest_safe_amount_charged :
    (2 ^ 256 - 1) / 10000 * 30 < 2 ^ 256 ∧ (9999, 10000) ≤ (10000, 10000) ∧
      (∃ out, swapOutput ⟨(2 ^ 256 - 1) / 10000, by decide⟩ 9999 10000 = .ok out ∧ out.val = 0) ∧
      (∃ cause, bridgeOutput ⟨(2 ^ 256 - 1) / 10000 + 1, by decide⟩ 10000 = .error cause) ∧
      ∃ rest, deductBps ⟨999, by decide⟩ 30 = .ok rest ∧
        rest.val = 999 * (10000 - 30) ⌈/⌉ 10000 ∧ rest.val = 997 := by
  obtain ⟨hdeduct, hbridge, hswap⟩ := deductions_exact
  obtain ⟨out, hout⟩ := hswap.exists_ok ⟨(2 ^ 256 - 1) / 10000, by decide⟩ (9999, 10000)
    ⟨by decide, by decide⟩ (Nat.le_refl _)
  obtain ⟨-, -, hfits⟩ := hdeduct ⟨999, by decide⟩ 30
  obtain ⟨-, rest, hrest, hkept, -⟩ := hfits (by decide)
  refine ⟨by decide, by decide, ⟨out, hout, ?_⟩, (hbridge.refused_iff _ _).mpr (by decide), rest,
    hrest, hkept (by decide), ?_⟩
  · rw [hswap.val_eq hout]
    decide
  · have hanswer : deductBps ⟨999, by decide⟩ 30 = .ok ⟨997, by decide⟩ := by decide
    exact congrArg Amount.val (Except.ok.inj (hrest.symm.trans hanswer))

end Quote
end RelayDesk
