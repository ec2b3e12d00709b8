import Mathlib.Data.List.Forall2
import Mathlib.Data.Nat.Digits.Defs
import RelayDesk.Text.Basic

/-!
Digits and the numbers that they spell.  A character is the digit of a value in either case of a
letter, and digits spell what the positional system makes of their values.  Zeros in front change
nothing.  The digits with which a number is written spell it, and in decimal they do not begin with
a zero unless that is all there is.
-/

namespace RelayDesk
namespace Text

/-- The digit of a value below sixteen; a letter may be in either case. -/
def IsDigitOf (d : Nat) (c : Char) : Prop := c = d.digitChar ∨ c = d.digitChar.toUpper

instance (d : Nat) (c : Char) : Decidable (IsDigitOf d c) := inferInstanceAs (Decidable (_ ∨ _))

/-- Digits of a base and their values, in one order. -/
def HaveValues (base : Nat) : List Nat → List Char → Prop :=
  List.Forall₂ fun d c => d < base ∧ IsDigitOf d c

/-- The same characters, each as it is or in uppercase. -/
def InEitherCase : List Char → List Char → Prop :=
  List.Forall₂ fun c e => e = c ∨ e = c.toUpper

/-- One or more digits of a base, most significant first, that stand for a number.  There may be
zeros in front. -/
def AreDigitsOf (base n : Nat) (cs : List Char) : Prop :=
  ∃ ds, ds ≠ [] ∧ HaveValues base ds cs ∧ Nat.ofDigits base ds.reverse = n

/-! ## Single digits -/

theorem digitValue_of_isDigitOf {d : Nat} {c : Char} (hd : d < 16) (h : IsDigitOf d c) :
    digitValue c = d := by
  have hall : ∀ d < 16, digitValue d.digitChar = d ∧ digitValue d.digitChar.toUpper = d := by
    decide
  rcases h with rfl | rfl
  · exact (hall d hd).1
  · exact (hall d hd).2

theorem lt_of_isHexDigit {c : Char} (h : isHexDigit c = true) : c.toNat < 128 := by
  simp only [isHexDigit, isDigit, Bool.or_eq_true, Bool.and_eq_true, decide_eq_true_eq,
    Char.le_def, UInt32.le_iff_toNat_le] at h
  have hval : c.val.toNat = c.toNat := Char.toNat_val
  have hnine : '9'.val.toNat = 57 := rfl
  have hsmall : 'f'.val.toNat = 102 := rfl
  have hlarge : 'F'.val.toNat = 70 := rfl
  omega

/-- All hexadecimal digits are characters of ASCII, which are looked at one by one. -/
theorem isDigitOf_digitValue {c : Char} (h : isHexDigit c = true) :
    digitValue c < 16 ∧ (isDigit c = true → digitValue c < 10) ∧ IsDigitOf (digitValue c) c := by
  have hall : ∀ n < 128, isHexDigit (Char.ofNat n) = true →
      digitValue (Char.ofNat n) < 16 ∧
        (isDigit (Char.ofNat n) = true → digitValue (Char.ofNat n) < 10) ∧
        IsDigitOf (digitValue (Char.ofNat n)) (Char.ofNat n) := by
    decide +kernel
  have hc := hall c.toNat (lt_of_isHexDigit h)
  rw [Char.ofNat_toNat] at hc
  exact hc h

theorem isHexDigit_iff {c : Char} : isHexDigit c = true ↔ ∃ d, d < 16 ∧ IsDigitOf d c := by
  have hall : ∀ d < 16, isHexDigit d.digitChar = true ∧ isHexDigit d.digitChar.toUpper = true := by
    decide
  constructor
  · intro h
    have hvalue := isDigitOf_digitValue h
    exact ⟨digitValue c, hvalue.1, hvalue.2.2⟩
  · rintro ⟨d, hd, rfl | rfl⟩
    · exact (hall d hd).1
    · exact (hall d hd).2

theorem isHexDigit_of_isDigit {c : Char} (h : isDigit c = true) : isHexDigit c = true := by
  simp [isHexDigit, h]

theorem isDigit_iff {c : Char} : isDigit c = true ↔ ∃ d, d < 10 ∧ IsDigitOf d c := by
  have hall : ∀ d < 10, isDigit d.digitChar = true ∧ isDigit d.digitChar.toUpper = true := by
    decide
  constructor
  · intro h
    have hvalue := isDigitOf_digitValue (isHexDigit_of_isDigit h)
    exact ⟨digitValue c, hvalue.2.1 h, hvalue.2.2⟩
  · rintro ⟨d, hd, rfl | rfl⟩
    · exact (hall d hd).1
    · exact (hall d hd).2

theorem IsDigitOf.toUpper {d : Nat} {c : Char} (hd : d < 16) (h : IsDigitOf d c) :
    IsDigitOf d c.toUpper := by
  have hall : ∀ d < 16, d.digitChar.toUpper.toUpper = d.digitChar.toUpper := by decide
  rcases h with rfl | rfl
  · exact .inr rfl
  · exact .inr (hall d hd)

theorem isBlank_of_isDigitOf {d : Nat} {c : Char} (hd : d < 16) (h : IsDigitOf d c) :
    isBlank c = false := by
  have hall : ∀ d < 16, isBlank d.digitChar = false ∧ isBlank d.digitChar.toUpper = false := by
    decide
  rcases h with rfl | rfl
  · exact (hall d hd).1
  · exact (hall d hd).2

theorem isBlank_of_isDigit {c : Char} (h : isDigit c = true) : isBlank c = false := by
  obtain ⟨d, hd, hc⟩ := isDigit_iff.mp h
  exact isBlank_of_isDigitOf (by omega) hc

/-! ## Digits in a row -/

section Row

variable {base n : Nat} {ds : List Nat} {cs : List Char}

theorem foldDigits_of_haveValues (hbase : base ≤ 16) (h : HaveValues base ds cs) (start : Nat) :
    foldDigits base start cs = Nat.ofDigits base ds.reverse + base ^ ds.length * start := by
  -- What was read so far is one more digit in front of those to come.
  induction h generalizing start with
  | nil => simp [foldDigits]
  | @cons d c ds cs hdigit _ ih =>
    have hvalue : digitValue c = d := digitValue_of_isDigitOf (by omega) hdigit.2
    have hstep : foldDigits base start (c :: cs) = foldDigits base (base * start + d) cs := by
      rw [← hvalue]
      rfl
    rw [hstep, ih, List.reverse_cons, Nat.ofDigits_append, Nat.ofDigits_singleton,
      List.length_reverse, List.length_cons, Nat.pow_succ]
    grind

theorem ofDigits_of_haveValues (hbase : base ≤ 16) (h : HaveValues base ds cs) :
    ofDigits base cs = Nat.ofDigits base ds.reverse := by
  unfold ofDigits
  rw [foldDigits_of_haveValues hbase h, Nat.mul_zero, Nat.add_zero]

theorem exists_haveValues_iff :
    (∃ ds, HaveValues base ds cs) ↔ ∀ c ∈ cs, ∃ d, d < base ∧ IsDigitOf d c := by
  induction cs with
  | nil => simp [HaveValues]
  | cons c rest ih =>
    rw [List.forall_mem_cons, ← ih]
    constructor
    · rintro ⟨ds, hvalues⟩
      obtain ⟨d, ds', hd, hrest, -⟩ := List.forall₂_cons_right_iff.mp hvalues
      exact ⟨⟨d, hd⟩, ds', hrest⟩
    · rintro ⟨⟨d, hd⟩, ds, hrest⟩
      exact ⟨d :: ds, .cons hd hrest⟩

/-- The number that digits stand for is the one that is computed from them. -/
theorem areDigitsOf_iff (hbase : base ≤ 16) :
    AreDigitsOf base n cs ↔
      cs ≠ [] ∧ (∀ c ∈ cs, ∃ d, d < base ∧ IsDigitOf d c) ∧ ofDigits base cs = n := by
  rw [← exists_haveValues_iff]
  constructor
  · rintro ⟨ds, hne, hvalues, rfl⟩
    refine ⟨?_, ⟨ds, hvalues⟩, ofDigits_of_haveValues hbase hvalues⟩
    rintro rfl
    exact hne (List.forall₂_nil_right_iff.mp hvalues)
  · rintro ⟨hne, ⟨ds, hvalues⟩, rfl⟩
    refine ⟨ds, ?_, hvalues, (ofDigits_of_haveValues hbase hvalues).symm⟩
    rintro rfl
    exact hne (List.forall₂_nil_left_iff.mp hvalues)

theorem AreDigitsOf.zeros (hbase : 0 < base) (h : AreDigitsOf base n cs) (k : Nat) :
    AreDigitsOf base n (List.replicate k '0' ++ cs) := by
  obtain ⟨ds, hne, hvalues, hn⟩ := h
  have hzeros : HaveValues base (List.replicate k 0) (List.replicate k '0') := by
    induction k with
    | zero => exact .nil
    | succ k ih => exact .cons ⟨hbase, .inl rfl⟩ ih
  refine ⟨List.replicate k 0 ++ ds, by simp [hne], List.rel_append hzeros hvalues, ?_⟩
  rw [List.reverse_append, List.reverse_replicate, Nat.ofDigits_append_replicate_zero, hn]

theorem AreDigitsOf.inEitherCase {cs' : List Char} (hbase : base ≤ 16)
    (h : AreDigitsOf base n cs) (hcase : InEitherCase cs cs') : AreDigitsOf base n cs' := by
  obtain ⟨ds, hne, hvalues, hn⟩ := h
  refine ⟨ds, hne, ?_, hn⟩
  clear hne hn
  induction hcase generalizing ds with
  | nil => exact hvalues
  | @cons c e cs cs' hce _ ih =>
    obtain ⟨d, ds', hd, hrest, rfl⟩ := List.forall₂_cons_right_iff.mp hvalues
    refine .cons ⟨hd.1, ?_⟩ (ih ds' hrest)
    rcases hce with rfl | rfl
    · exact hd.2
    · exact hd.2.toUpper (by omega)

end Row

/-! ## Written numbers -/

/-- The digits with which a number is written stand for it. -/
theorem areDigitsOf_toDigits {base : Nat} (hbase : 1 < base) (n : Nat) :
    AreDigitsOf base n (Nat.toDigits base n) := by
  induction n using Nat.strongRecOn with
  | ind n ih =>
    rw [Nat.toDigits_eq_if hbase]
    by_cases hlt : n < base
    · rw [if_pos hlt]
      exact ⟨[n], by simp, .cons ⟨hlt, .inl rfl⟩ .nil, by simp⟩
    · rw [if_neg hlt]
      have hpos : 0 < n := by omega
      obtain ⟨ds, -, hvalues, hn⟩ := ih (n / base) (Nat.div_lt_self hpos hbase)
      have hmod : n % base < base := Nat.mod_lt n (by omega)
      refine ⟨ds ++ [n % base], by simp,
        List.rel_append hvalues (.cons ⟨hmod, .inl rfl⟩ .nil), ?_⟩
      rw [List.reverse_append, List.reverse_singleton, List.singleton_append, Nat.ofDigits_cons,
        hn]
      exact Nat.mod_add_div n base

theorem isDigit_of_mem_decimal {n : Nat} {c : Char} (h : c ∈ decimal n) : isDigit c = true := by
  have hdigits : AreDigitsOf 10 n (decimal n) := areDigitsOf_toDigits (by decide) n
  exact isDigit_iff.mpr (((areDigitsOf_iff (by decide)).mp hdigits).2.1 c h)

/-- The decimal digits of a number spell it. -/
theorem ofDigits_decimal (n : Nat) : ofDigits 10 (decimal n) = n :=
  ((areDigitsOf_iff (by decide)).mp (areDigitsOf_toDigits (by decide) n)).2.2

theorem decimal_ne_nil (n : Nat) : decimal n ≠ [] := Nat.toDigits_ne_nil

/-- Digits that begin with a zero are those of zero. -/
theorem decimal_of_head_zero {n : Nat} (h : (decimal n).head? = some '0') : decimal n = ['0'] := by
  induction n using Nat.strongRecOn with
  | ind n ih =>
    have hdigits : decimal n =
        if n < 10 then [n.digitChar] else decimal (n / 10) ++ [(n % 10).digitChar] :=
      Nat.toDigits_eq_if (by decide)
    by_cases hlt : n < 10
    · rw [hdigits, if_pos hlt] at h ⊢
      rw [Option.some.inj h]
    · exfalso
      rw [hdigits, if_neg hlt, List.head?_append_of_ne_nil _ (decimal_ne_nil _)] at h
      have hzero : ofDigits 10 (decimal (n / 10)) = 0 := by
        rw [ih (n / 10) (by omega) h]
        rfl
      rw [ofDigits_decimal] at hzero
      omega

/-- A decimal digit is spelt in one way only. -/
theorem eq_map_digitChar {ds : List Nat} {cs : List Char} (h : HaveValues 10 ds cs) :
    cs = ds.map Nat.digitChar := by
  have hcase : ∀ d < 10, d.digitChar.toUpper = d.digitChar := by decide
  induction h with
  | nil => rfl
  | @cons d c ds cs hdigit _ ih =>
    have hc : c = d.digitChar := hdigit.2.elim id fun hupper => hupper.trans (hcase d hdigit.1)
    rw [List.map_cons, ← ih, hc]

/-- Digits without a zero in front are those of the positional system. -/
theorem eq_map_digits_of_head {n : Nat} {cs : List Char} (h : AreDigitsOf 10 n cs)
    (hhead : cs.head? ≠ some '0') : cs = (Nat.digits 10 n).reverse.map Nat.digitChar := by
  obtain ⟨ds, hne, hvalues, rfl⟩ := h
  have hcs := eq_map_digitChar hvalues
  have hbelow : ∀ d ∈ ds.reverse, d < 10 := fun d hd =>
    ((List.forall₂_and_left ds cs).mp hvalues).1 d (List.mem_reverse.mp hd)
  have hlast : ∀ hr : ds.reverse ≠ [], ds.reverse.getLast hr ≠ 0 := by
    intro hr hzero
    rw [List.getLast_reverse] at hzero
    apply hhead
    rw [hcs, List.head?_map, List.head?_eq_some_head hne, hzero]
    rfl
  rw [Nat.digits_ofDigits 10 (by decide) ds.reverse hbelow hlast, List.reverse_reverse, hcs]

/-- Digits that stand for a number are its decimal text, unless there is a zero in front of
others. -/
theorem eq_decimal {n : Nat} {cs : List Char} (h : AreDigitsOf 10 n cs)
    (hzero : cs.head? = some '0' → cs = ['0']) : cs = decimal n := by
  have hdecimal : AreDigitsOf 10 n (decimal n) := areDigitsOf_toDigits (by decide) n
  obtain ⟨hne, -, hn⟩ := (areDigitsOf_iff (by decide)).mp h
  by_cases hhead : cs.head? = some '0'
  · rw [hzero hhead] at hn ⊢
    rw [← hn]
    rfl
  · have hcs := eq_map_digits_of_head h hhead
    rw [hcs]
    refine (eq_map_digits_of_head hdecimal fun hdhead => hne ?_).symm
    have hn0 : n = 0 := by
      rw [← ofDigits_decimal n, decimal_of_head_zero hdhead]
      rfl
    rw [hcs, hn0]
    rfl

end Text
end RelayDesk
