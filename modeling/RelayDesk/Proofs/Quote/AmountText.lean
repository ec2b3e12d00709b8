import RelayDesk.Proofs.Except
import RelayDesk.Proofs.Json.Integer
import RelayDesk.Proofs.Quote.Amount
import RelayDesk.Proofs.Quote.Pricing
import RelayDesk.Proofs.Text.Digits
import RelayDesk.Proofs.Text.Trim

/-!
The texts of amounts.  A text is read as an amount exactly when it is made of blanks, a mark of its
base, digits and blanks again, and the digits stand for a number of 256 bits; that number is what is
read.  A JSON number is one exactly when it is written in digits alone and has 64 bits.
-/

namespace RelayDesk
namespace Quote
namespace Amount

open Text (AreDigitsOf AllBlank InEitherCase)

/-- What stands in front of the digits of a base. -/
inductive Mark : Nat → List Char → Prop
  | decimal : Mark 10 []
  | lower : Mark 16 ['0', 'x']
  | upper : Mark 16 ['0', 'X']

/-- The texts of a number. -/
inductive Spelling (n : Nat) : List Char → Prop
  | between {base : Nat} {before mark digits after : List Char} (blankBefore : AllBlank before)
      (marked : Mark base mark) (written : AreDigitsOf base n digits)
      (blankAfter : AllBlank after) : Spelling n (before ++ (mark ++ digits) ++ after)

/-! ## Marks and digits -/

section Digits

variable {base n : Nat} {mark digits cs : List Char}

theorem areDigits_iff (h : Mark base mark) :
    areDigits base digits = true ↔
      digits ≠ [] ∧ ∀ c ∈ digits, ∃ d, d < base ∧ Text.IsDigitOf d c := by
  cases h with
  | decimal => simp [areDigits, Text.isDigit_iff]
  | lower => simp [areDigits, Text.isHexDigit_iff]
  | upper => simp [areDigits, Text.isHexDigit_iff]

theorem areDigitsOf_iff_areDigits (h : Mark base mark) :
    AreDigitsOf base n digits ↔ areDigits base digits = true ∧ Text.ofDigits base digits = n := by
  have hbase : base ≤ 16 := by
    cases h <;> decide
  rw [Text.areDigitsOf_iff hbase, areDigits_iff h, and_assoc]

theorem exists_mark (cs : List Char) :
    ∃ mark, Mark (splitBase cs).1 mark ∧ cs = mark ++ (splitBase cs).2 := by
  unfold splitBase
  split
  · exact ⟨_, .lower, rfl⟩
  · exact ⟨_, .upper, rfl⟩
  · exact ⟨_, .decimal, rfl⟩

theorem splitBase_append (h : Mark base mark) (hdigits : areDigits base digits = true) :
    splitBase (mark ++ digits) = (base, digits) := by
  cases h with
  | decimal => exact splitBase_of_digits (areDigits_ten_iff.mp hdigits).2
  | lower => rfl
  | upper => rfl

/-- No blank stands in a mark or among digits, so none at their ends. -/
theorem trimmed_of_digits (h : Mark base mark) (hdigits : areDigits base digits = true) :
    Text.Trimmed (mark ++ digits) := by
  have hblank : ∀ c ∈ mark ++ digits, Text.isBlank c = false := by
    intro c hc
    rcases List.mem_append.mp hc with hmark | hdigit
    · cases h <;> simp at hmark <;> rcases hmark with rfl | rfl <;> rfl
    · obtain ⟨d, hd, hc⟩ := ((areDigits_iff h).mp hdigits).2 c hdigit
      exact Text.isBlank_of_isDigitOf (by cases h <;> omega) hc
  exact ⟨fun c hc => hblank c (List.mem_of_head? hc),
    fun c hc => hblank c (List.mem_of_getLast? hc)⟩

end Digits

/-! ## Texts -/

section Texts

variable {n : Nat} {field raw : String} {a : Amount}

/-- A spelling is told by what is left of the text without its blanks. -/
theorem spelling_iff {cs : List Char} :
    Spelling n cs ↔
      areDigits (splitBase (Text.trimChars cs)).1 (splitBase (Text.trimChars cs)).2 = true ∧
        Text.ofDigits (splitBase (Text.trimChars cs)).1 (splitBase (Text.trimChars cs)).2 = n := by
  constructor
  · rintro ⟨hbefore, hmark, hdigits, hafter⟩
    have hspelt := (areDigitsOf_iff_areDigits hmark).mp hdigits
    have hne := ((areDigits_iff hmark).mp hspelt.1).1
    rw [Text.trimChars_between hbefore hafter (by simp [hne]) (trimmed_of_digits hmark hspelt.1),
      splitBase_append hmark hspelt.1]
    exact hspelt
  · intro hspelt
    obtain ⟨before, after, hbefore, hafter, hcs⟩ := Text.exists_blanks cs
    obtain ⟨mark, hmark, hsplit⟩ := exists_mark (Text.trimChars cs)
    rw [hcs, hsplit]
    exact .between hbefore hmark ((areDigitsOf_iff_areDigits hmark).mpr hspelt) hafter

theorem ofNat?_eq_some_iff : ofNat? n = some a ↔ n = a.val := by
  unfold ofNat?
  by_cases hn : n < amountLimit
  · rw [dif_pos hn, Option.some.injEq, Amount.mk.injEq]
  · rw [dif_neg hn]
    have hne : n ≠ a.val := fun heq => hn (heq ▸ a.val_lt)
    simp [hne]

/-- A text is read as an amount exactly when it spells it. -/
theorem ofText_eq_ok_iff : ofText field raw = .ok a ↔ Spelling a.val raw.toList := by
  rw [← toOption_eq_some_iff, toOption_ofText, spelling_iff]
  unfold ofText?
  generalize splitBase (Text.trimChars raw.toList) = split
  obtain ⟨base, digits⟩ := split
  dsimp only
  by_cases hdigits : areDigits base digits = true
  · simp only [hdigits, if_true, ofNat?_eq_some_iff, true_and]
  · simp [hdigits]

/-- No other text is. -/
theorem ofText_refused_iff :
    (∃ cause, ofText field raw = .error cause) ↔
      ∀ m, m < amountLimit → ¬ Spelling m raw.toList := by
  constructor
  · rintro ⟨cause, hcause⟩ m hm hspelt
    have hread : ofText field raw = .ok ⟨m, hm⟩ := ofText_eq_ok_iff.mpr hspelt
    rw [hread] at hcause
    cases hcause
  · intro hnone
    cases hread : ofText field raw with
    | ok a => exact absurd (ofText_eq_ok_iff.mp hread) (hnone a.val a.val_lt)
    | error cause => exact ⟨cause, rfl⟩

end Texts

/-! ## Numbers -/

theorem ofJson_num_eq_ok_iff {depth : Nat} {text : String} {a : Amount} (field : String)
    (h : Json.Readable depth (.num text)) :
    ofJson field (.num text) = .ok a ↔ AreDigitsOf 10 a.val text.toList ∧ a.val < 2 ^ 64 := by
  rw [← toOption_eq_some_iff, toOption_ofJson, ← Number.unsigned?_eq_some_iff h.head?_ne_plus]
  show (Number.unsigned? text.toList).bind ofNat? = some a ↔ _
  rw [Option.bind_eq_some_iff]
  constructor
  · rintro ⟨n, hn, ha⟩
    rw [hn, ofNat?_eq_some_iff.mp ha]
  · intro hn
    exact ⟨a.val, hn, ofNat?_eq_some_iff.mpr rfl⟩

/-! ## The texts of an amount -/

/-- A text is read exactly when it spells a number of 256 bits, and then as that number.  So an
amount is read back from its decimal digits, and from its hexadecimal digits in either case, with
zeros before them and blanks around them. -/
theorem amounts_read_as_spelt (field : String) :
    (∀ raw a, ofText field raw = .ok a ↔ Spelling a.val raw.toList) ∧
      (∀ raw, (∃ cause, ofText field raw = .error cause) ↔
        ∀ n, n < amountLimit → ¬ Spelling n raw.toList) ∧
      (∀ (a : Amount) (zeros : Nat) (before after : List Char), AllBlank before → AllBlank after →
        ofText field (String.ofList
          (before ++ (List.replicate zeros '0' ++ a.text.toList) ++ after)) = .ok a ∧
        ∀ mark hex, Mark 16 mark → InEitherCase (Nat.toDigits 16 a.val) hex →
          ofText field (String.ofList
            (before ++ (mark ++ (List.replicate zeros '0' ++ hex)) ++ after)) = .ok a) ∧
      ∀ depth text, Json.Readable depth (.num text) → ∀ a,
        ofJson field (.num text) = .ok a ↔ AreDigitsOf 10 a.val text.toList ∧ a.val < 2 ^ 64 := by
  refine ⟨fun raw a => ofText_eq_ok_iff, fun raw => ofText_refused_iff, ?_,
    fun depth text h a => ofJson_num_eq_ok_iff field h⟩
  intro a zeros before after hbefore hafter
  constructor
  · have hdigits : AreDigitsOf 10 a.val a.text.toList := by
      rw [text, String.toList_ofList]
      exact Text.areDigitsOf_toDigits (by decide) a.val
    rw [ofText_eq_ok_iff, String.toList_ofList, ← List.nil_append (List.replicate zeros '0' ++ _)]
    exact .between hbefore .decimal (hdigits.zeros (by decide) zeros) hafter
  · intro mark hex hmark hcase
    have hwritten : AreDigitsOf 16 a.val (Nat.toDigits 16 a.val) :=
      Text.areDigitsOf_toDigits (by decide) a.val
    have hdigits := hwritten.inEitherCase (Nat.le_refl 16) hcase
    rw [ofText_eq_ok_iff, String.toList_ofList]
    exact .between hbefore hmark (hdigits.zeros (by decide) zeros) hafter

/-- A no-break space before and an ideographic space after do no harm, nor does a mixture of cases.
The largest number of 64 bits can be written as a number, which the next one cannot. -/
theorem padded_hexadecimal_and_largest_number :
    AllBlank ['\u00a0'] ∧ AllBlank ['\u3000'] ∧ Mark 16 ['0', 'X'] ∧
      InEitherCase (Nat.toDigits 16 255) ['f', 'F'] ∧
      ofText "amount" "\u00a00X00fF\u3000" = .ok ⟨255, by decide⟩ ∧
      Json.Readable 0 (.num "18446744073709551615") ∧
      ofJson "amount" (.num "18446744073709551615") = .ok ⟨2 ^ 64 - 1, by decide⟩ := by
  have hbefore : AllBlank ['\u00a0'] := by
    intro c hc
    rw [List.mem_singleton.mp hc]
    rfl
  have hafter : AllBlank ['\u3000'] := by
    intro c hc
    rw [List.mem_singleton.mp hc]
    rfl
  have hcase : InEitherCase (Nat.toDigits 16 255) ['f', 'F'] :=
    .cons (.inl rfl) (.cons (.inr (by decide)) .nil)
  have htext : Nat.toDigits 10 18446744073709551615 = "18446744073709551615".toList := by decide
  have hlargest : Json.Readable 0 (.num "18446744073709551615") := by
    rw [← String.ofList_toList (s := "18446744073709551615"), ← htext]
    exact Json.readable_ofInt 0 18446744073709551615
  obtain ⟨-, -, hback, hnum⟩ := amounts_read_as_spelt "amount"
  obtain ⟨-, hhex⟩ := hback ⟨255, by decide⟩ 2 _ _ hbefore hafter
  have hwritten : Text.AreDigitsOf 10 18446744073709551615 "18446744073709551615".toList :=
    htext ▸ Text.areDigitsOf_toDigits (by decide) 18446744073709551615
  have hread := hhex _ _ .upper hcase
  have hlast := (hnum 0 _ hlargest ⟨18446744073709551615, by decide⟩).mpr ⟨hwritten, by decide⟩
  exact ⟨hbefore, hafter, .upper, hcase, hread, hlargest, hlast⟩

end Amount
end Quote
end RelayDesk
