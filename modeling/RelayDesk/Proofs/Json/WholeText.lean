import RelayDesk.Proofs.Json.Integer
import RelayDesk.Proofs.Json.Sound
import RelayDesk.Proofs.Json.Taken
import RelayDesk.Proofs.Number.Whole

/-!
Texts of whole numbers.  Between blanks that do not matter a whole number is written with its
decimal digits and in no other way.  Only an object that marks a number is read as one without
being written as one.
-/

namespace RelayDesk
namespace Json

/-- A numeral without an exponent stands in the text as it is. -/
theorem rest_of_scanNumeral {cur next : Cursor} {n : Numeral} (h : scanNumeral cur = .ok (n, next))
    (hexponent : n.exponent = none) : cur.rest = n.chars ++ next.rest := by
  have hsign := rest_of_readSign cur
  unfold scanNumeral at h
  -- The sign is read without a chance to fail, so it is named before the parts that may.
  cases hread : readSign cur with
  | mk negative cur₀ =>
    rw [hread] at h hsign
    obtain ⟨⟨whole, cur₁⟩, hwhole, h⟩ := bind_eq_ok_iff.mp h
    obtain ⟨⟨fraction, cur₂⟩, hfraction, h⟩ := bind_eq_ok_iff.mp h
    obtain ⟨⟨exponent, cur₃⟩, hexp, h⟩ := bind_eq_ok_iff.mp h
    cases h
    obtain rfl : exponent = none := hexponent
    rw [hsign, rest_of_readWholePart hwhole, rest_of_readFraction hfraction,
      rest_of_readExponent hexp, Numeral.chars_eq]
    simp only [Numeral.exponentChars, List.append_nil, List.append_assoc]

/-! ## Whole numbers -/

/-- Does the text begin, blanks apart, with an object that marks a number? -/
def marksNumber (t : String) : Bool :=
  let cur := (Cursor.start t).skipBlank
  cur.rest.head? == some '\x7b' && (numberMark? cur.advance).isSome

/-- A numeral of nothing but digits is a whole part and no more. -/
theorem Numeral.eq_whole_of_digits {n : Numeral} (h : ∀ c ∈ n.chars, Text.isDigit c = true) :
    n.chars = n.whole ∧ n.exponent = none := by
  rw [Numeral.chars_eq] at h ⊢
  have hnegative : n.negative = false := by
    by_contra hneg
    exact absurd (h '-' (by simp [hneg])) (by decide)
  have hfraction : n.fraction = [] := by
    by_contra hne
    exact absurd (h '.' (by simp [fractionChars, hne])) (by decide)
  have hexponent : n.exponent = none := by
    cases hexp : n.exponent with
    | none => rfl
    | some e => exact absurd (h 'e' (by simp [exponentChars, hexp])) (by decide)
  rw [hnegative, hfraction, hexponent]
  simp [fractionChars, exponentChars]

theorem Numeral.chars_eq_decimal {n : Numeral} (wf : n.WellFormed) {k : Nat}
    (h : Text.AreDigitsOf 10 k n.chars) : n.chars = Text.decimal k := by
  have hwhole := (eq_whole_of_digits fun _ hc => Number.isDigit_of_areDigitsOf h hc).1
  exact Text.eq_decimal h fun hzero => by rw [hwhole] at hzero ⊢; exact wf.whole_of_zero hzero

/-- An unsigned number of 64 bits is the value of its own decimal text only. -/
theorem unsigned?_eq_some_iff {depth : Nat} {text : String} (h : Readable depth (.num text))
    {n : Nat} : Number.unsigned? text.toList = some n ↔ Json.num text = .ofNat n ∧ n < 2 ^ 64 := by
  have hplus := h.head?_ne_plus
  rw [Number.unsigned?_eq_some_iff hplus]
  refine and_congr_left fun _ => ?_
  cases h with
  | @num _ m wf =>
    have htext : m.text.toList = m.chars := String.toList_ofList
    rw [htext]
    constructor
    · intro hdigits
      unfold Numeral.text ofNat
      rw [Numeral.chars_eq_decimal wf hdigits]
    · intro hnum
      have hchars : m.chars = Text.decimal n := String.ofList_injective (Json.num.inj hnum)
      rw [hchars]
      exact Text.areDigitsOf_toDigits (by decide) n

/-- Where no number is marked, a number that is read was written as a numeral. -/
theorem readNumeral_of_readValue {t : String} (hplain : marksNumber t = false) {depth : Nat}
    {text : String} {next : Cursor} (h : readValue depth (.start t) = .ok (.num text, next)) :
    ∃ n, readNumeral (Cursor.start t).skipBlank = .ok (n, next) ∧ n.text = text := by
  unfold readValue at h
  dsimp only at h
  split at h
  · cases h
  · next c tail hrest =>
    split_ifs at h with hbracket hbrace
    · cases depth with
      | zero => cases h
      | succ depth =>
        obtain ⟨_, -, h⟩ := bind_eq_ok_iff.mp h
        cases h
    · have hmark : numberMark? (Cursor.start t).skipBlank.advance = none := by
        simpa [marksNumber, hrest, hbrace] using hplain
      cases depth with
      | zero => cases h
      | succ depth =>
        simp only [readBraced, hmark] at h
        obtain ⟨_, -, h⟩ := bind_eq_ok_iff.mp h
        cases h
    · unfold readScalar at h
      split_ifs at h
      all_goals obtain ⟨p, hp, h⟩ := bind_eq_ok_iff.mp h
      all_goals cases h
      exact ⟨p.1, hp, rfl⟩

/-- The texts of a whole number are its decimal digits with blanks around them. -/
theorem read_eq_ofNat_iff {t : String} (hplain : marksNumber t = false) (n : Nat) :
    Json.read t = .ok (.ofNat n) ↔
      ∃ before after, AllJsonBlank before ∧ AllJsonBlank after ∧
        t.toList = before ++ (Text.decimal n ++ after) := by
  rw [read_eq_ok_iff]
  constructor
  · rintro ⟨next, hvalue, hafter⟩
    obtain ⟨m, hm, htext⟩ := readNumeral_of_readValue hplain hvalue
    have hchars : m.chars = Text.decimal n := String.ofList_injective htext
    -- Only an exponent could have been written in another way than its normal form.
    have hexponent : m.exponent = none := by
      refine (Numeral.eq_whole_of_digits fun c hc => ?_).2
      rw [hchars] at hc
      exact Text.isDigit_of_mem_decimal hc
    obtain ⟨before, hbefore, hrest, -⟩ := exists_skipped (.start t)
    rw [rest_of_scanNumeral (mapError_eq_ok_iff.mp hm) hexponent, hchars] at hrest
    exact ⟨before, next.rest, hbefore, hafter, hrest⟩
  · rintro ⟨before, after, hbefore, hafter, hchars⟩
    have wf := Numeral.wellFormed_ofInt n
    have hnum : ofNat n = .num (Numeral.ofInt n).text := ofInt_eq n
    have hdecimal : (ofNat n).chars = Text.decimal n := String.toList_ofList
    obtain ⟨c, tail, hcons, htype⟩ := chars_eq_cons (readable_ofInt 0 n)
    have hhead : ∀ d ∈ (Text.decimal n ++ after).head?, Cursor.isJsonBlank d = false := by
      intro d hd
      have hlead : Text.decimal n = c :: tail := hdecimal.symm.trans hcons
      rw [hlead] at hd
      obtain rfl : c = d := Option.some.inj hd
      exact (not_blank_of_leadType? htype).1
    obtain ⟨p, hskip⟩ := skipBlank_append hbefore hhead ⟨1, 0⟩
    obtain ⟨next, hread⟩ := reads_num nestingLimit wf hafter.endsNumeral p
    rw [← hnum, hdecimal] at hread
    refine ⟨⟨after, next⟩, ?_, hafter⟩
    rw [← readValue_skipBlank, Cursor.start, hchars, hskip, hread]

end Json
end RelayDesk
