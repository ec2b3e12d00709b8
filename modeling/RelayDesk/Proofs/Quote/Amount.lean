import RelayDesk.Proofs.Number.Whole
import RelayDesk.Quote.Amount

/-!
What an amount is read as.  A value that spells a number, in decimal, in hexadecimal or as a number
itself, is read as the amount of that size.  The name that a value goes by shows in a refusal only.
-/

namespace RelayDesk
namespace Quote
namespace Amount

/-- The amount that a text spells, whatever it is called. -/
def ofText? (raw : String) : Option Amount :=
  let (base, digits) := splitBase (Text.trimChars raw.toList)
  if areDigits base digits then ofNat? (Text.ofDigits base digits) else none

/-- The amount that a value denotes, whatever it is called. -/
def ofJson? : Json → Option Amount
  | .str s => ofText? s
  | .num text => (Number.unsigned? text.toList).bind ofNat?
  | _ => none

theorem toOption_ofDigits (field : String) (base : Nat) (digits : List Char) :
    (ofDigits field base digits).toOption = ofNat? (Text.ofDigits base digits) := by
  unfold ofDigits
  cases ofNat? (Text.ofDigits base digits) <;> rfl

theorem toOption_ofText (field raw : String) : (ofText field raw).toOption = ofText? raw := by
  unfold ofText ofText?
  generalize splitBase (Text.trimChars raw.toList) = split
  obtain ⟨base, digits⟩ := split
  dsimp only
  by_cases hdigits : areDigits base digits = true
  · rw [if_pos hdigits, if_pos hdigits]
    exact toOption_ofDigits field base digits
  · rw [if_neg hdigits, if_neg hdigits]
    rfl

theorem toOption_ofJson (field : String) (v : Json) :
    (ofJson field v).toOption = ofJson? v := by
  cases v with
  | str s => exact toOption_ofText field s
  | num text =>
    unfold ofJson ofJson?
    dsimp only
    split
    · next a ha => exact ha.symm
    · next hnone => exact hnone.symm
  | _ => rfl

/-- The ways of writing an amount. -/
inductive Spells (n : Nat) : Json → Prop
  | decimal {s : String} (digits : areDigits 10 (Text.trimChars s.toList) = true)
      (value : Text.ofDigits 10 (Text.trimChars s.toList) = n) : Spells n (.str s)
  | hexadecimal {s : String} {x : Char} {cs : List Char} (mark : x = 'x' ∨ x = 'X')
      (text : Text.trimChars s.toList = '0' :: x :: cs) (digits : areDigits 16 cs = true)
      (value : Text.ofDigits 16 cs = n) : Spells n (.str s)
  | number {text : String} (digits : areDigits 10 text.toList = true)
      (value : Text.ofDigits 10 text.toList = n) (small : n ≤ Number.maxUnsigned) :
      Spells n (.num text)

theorem areDigits_ten_iff {cs : List Char} :
    areDigits 10 cs = true ↔ cs ≠ [] ∧ ∀ c ∈ cs, Text.isDigit c = true := by
  unfold areDigits
  simp

theorem splitBase_of_digits {cs : List Char} (h : ∀ c ∈ cs, Text.isDigit c = true) :
    splitBase cs = (10, cs) := by
  unfold splitBase
  split
  · exact absurd (h 'x' (by simp)) (by decide)
  · exact absurd (h 'X' (by simp)) (by decide)
  · rfl

theorem ofJson?_of_spells {n : Nat} {v : Json} (h : Spells n v) : ofJson? v = ofNat? n := by
  cases h with
  | @decimal s digits value =>
    show ofText? s = _
    unfold ofText?
    rw [splitBase_of_digits (areDigits_ten_iff.mp digits).2]
    dsimp only
    rw [if_pos digits, value]
  | @hexadecimal s x cs mark text digits value =>
    have hbase : splitBase ('0' :: x :: cs) = (16, cs) := by
      rcases mark with rfl | rfl <;> rfl
    show ofText? s = _
    unfold ofText?
    rw [text, hbase]
    dsimp only
    rw [if_pos digits, value]
  | @number text digits value small =>
    obtain ⟨hne, hdigits⟩ := areDigits_ten_iff.mp digits
    show (Number.unsigned? text.toList).bind ofNat? = _
    rw [Number.unsigned?_of_digits hne hdigits (value ▸ small), value]
    rfl

end Amount
end Quote
end RelayDesk
