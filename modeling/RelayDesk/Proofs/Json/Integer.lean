import RelayDesk.Json.Lossy
import RelayDesk.Proofs.Json.RoundTrip
import RelayDesk.Proofs.Text.Digits

/-!
Integers as text.  An integer that was written is read back where it is in range, and 64 bits are
enough to read it without going through a float.
-/

namespace RelayDesk
namespace Json

/-! ## The numeral of an integer -/

/-- The parts of the text of an integer. -/
def Numeral.ofInt (n : Int) : Numeral where
  negative := n < 0
  whole := Text.decimal n.natAbs
  fraction := []
  exponent := none

theorem ofInt_eq (n : Int) : ofInt n = .num (Numeral.ofInt n).text := by
  unfold ofInt Numeral.text Numeral.chars Numeral.ofInt
  cases n with
  | ofNat k =>
    have hsign : ¬ (k : Int) < 0 := by omega
    simp [Text.decimalInt, hsign]
  | negSucc k => simp [Text.decimalInt, Int.negSucc_lt_zero]

theorem Numeral.wellFormed_ofInt (n : Int) : (Numeral.ofInt n).WellFormed where
  whole_ne_nil := Text.decimal_ne_nil _
  whole_digits _ := Text.isDigit_of_mem_decimal
  whole_of_zero := Text.decimal_of_head_zero
  fraction_digits _ h := nomatch h
  exponent_digits _ _ h := nomatch h

theorem readable_ofInt (depth : Nat) (n : Int) : Readable depth (ofInt n) := by
  rw [ofInt_eq]
  exact .num (Numeral.wellFormed_ofInt n)

/-- An integer of 64 bits, signed or not, is taken for what it is. -/
theorem Numeral.integerOrFloat?_ofInt {n : Int} (hlow : -(Number.maxSigned : Int) - 1 ≤ n)
    (hhigh : n ≤ Number.maxUnsigned) :
    (Numeral.ofInt n).integerOrFloat? = some (.integer n) := by
  have hvalue : Text.ofDigits 10 (Numeral.ofInt n).whole = n.natAbs := Text.ofDigits_decimal _
  have hwhole : ((Numeral.ofInt n).fraction.isEmpty && (Numeral.ofInt n).exponent.isNone) = true :=
    rfl
  unfold integerOrFloat?
  rw [if_pos hwhole, hvalue]
  by_cases hneg : n < 0
  · have hsign : (Numeral.ofInt n).negative = true := decide_eq_true hneg
    have hpos : 0 < n.natAbs := by omega
    have hrange : n.natAbs ≤ Number.maxSigned + 1 := by omega
    have hback : -(n.natAbs : Int) = n := by omega
    simp only [hsign, decide_eq_true hpos, decide_eq_true hrange, hback, Bool.not_true,
      Bool.false_and, Bool.and_self, Bool.false_eq_true, if_false, if_true]
  · have hsign : (Numeral.ofInt n).negative = false := decide_eq_false hneg
    have hrange : n.natAbs ≤ Number.maxUnsigned := by omega
    have hback : (n.natAbs : Int) = n := by omega
    simp only [hsign, decide_eq_true hrange, hback, Bool.not_false, Bool.and_self, if_true]

/-- An integer in range is read back, with any rest behind it. -/
theorem reads_integer {low high n : Int} (hlow : -(Number.maxSigned : Int) - 1 ≤ low)
    (hhigh : high ≤ Number.maxUnsigned) (hn : low ≤ n ∧ n ≤ high) (expected : String)
    {rest : List Char} (hrest : EndsValue rest) :
    Reads (readInteger low high expected) ((ofInt n).chars ++ rest) n rest := by
  intro place
  have wf := Numeral.wellFormed_ofInt n
  obtain ⟨c, cs, hcons, htype⟩ := chars_eq_cons (readable_ofInt 0 n)
  obtain ⟨next, hread⟩ := reads_numeral wf hrest.endsNumeral place
  refine ⟨next, ?_⟩
  rw [ofInt_eq] at hcons htype ⊢
  rw [chars_num] at hcons ⊢
  rw [hcons, List.cons_append] at hread ⊢
  have hrange : (decide (low ≤ n) && decide (n ≤ high)) = true := by simp [hn]
  have hinteger := Numeral.integerOrFloat?_ofInt (hlow.trans hn.1) (hn.2.trans hhigh)
  unfold readInteger
  rw [skipBlank_cons (not_blank_of_leadType? htype).1]
  simp only [if_pos (leadType?_number htype), hread, ok_bind, hinteger, if_pos hrange]
  rfl

end Json
end RelayDesk
