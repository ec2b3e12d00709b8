import RelayDesk.Proofs.Json.Blanks

/-!
What is taken from a text.  A reader leaves the end of the text that it was given; what stands in
front of that end is told here, for words, for the parts of a numeral, and for a whole numeral.
-/

namespace RelayDesk
namespace Json

theorem rest_of_word {expected : List Char} {cur next : Cursor}
    (h : cur.word expected = .ok next) : cur.rest = expected ++ next.rest := by
  induction expected generalizing cur with
  | nil =>
    cases h
    rfl
  | cons e more ih =>
    obtain ⟨text, start⟩ := cur
    cases text with
    | nil => cases h
    | cons c tail =>
      unfold Cursor.word at h
      split_ifs at h with hc
      have htail : tail = more ++ next.rest := ih h
      rw [List.cons_append, ← htail, hc]

theorem rest_of_readSign (cur : Cursor) :
    cur.rest = (if (readSign cur).1 then ['-'] else []) ++ (readSign cur).2.rest := by
  unfold readSign
  split
  · next tail hrest =>
    rw [Cursor.rest_advance hrest, hrest]
    rfl
  · rfl

theorem rest_of_someDigits {taken : Bool} {cur next : Cursor} {ds : List Char}
    (h : someDigits taken cur = .ok (ds, next)) : cur.rest = ds ++ next.rest := by
  unfold someDigits at h
  split at h
  · cases h
  · have hdigits : cur.digits = (ds, next) := Except.ok.inj h
    have hparts : cur.digits.1 ++ cur.digits.2.rest = cur.rest := List.takeWhile_append_dropWhile
    rw [hdigits] at hparts
    exact hparts.symm

theorem rest_of_readWholePart {cur next : Cursor} {ds : List Char}
    (h : readWholePart cur = .ok (ds, next)) : cur.rest = ds ++ next.rest := by
  unfold readWholePart at h
  split at h
  · next c tail hrest =>
    split_ifs at h
    cases h
    rw [Cursor.rest_advance hrest, hrest]
    rfl
  · exact rest_of_someDigits h

theorem rest_of_readFraction {cur next : Cursor} {ds : List Char}
    (h : readFraction cur = .ok (ds, next)) :
    cur.rest = Numeral.fractionChars ds ++ next.rest := by
  unfold readFraction at h
  split at h
  · next tail hrest =>
    have hds : ds ≠ [] := (digits_of_someDigits h).2
    have htail := rest_of_someDigits h
    rw [Cursor.rest_advance hrest] at htail
    rw [hrest, htail]
    simp [Numeral.fractionChars, hds]
  · cases h
    rfl

theorem rest_of_readExponent {cur next : Cursor} (h : readExponent cur = .ok (none, next)) :
    cur.rest = next.rest := by
  unfold readExponent at h
  split at h
  · split at h
    · obtain ⟨⟨ds, after⟩, -, h⟩ := bind_eq_ok_iff.mp h
      cases h
    · cases h
      rfl
  · cases h
    rfl

/-- The characters of numerals. -/
def IsNumeralChar (c : Char) : Prop := Text.isDigit c = true ∨ c ∈ ['-', '+', '.', 'e', 'E']

theorem isNumeralChar_of_someDigits {taken : Bool} {cur next : Cursor} {ds : List Char}
    (h : someDigits taken cur = .ok (ds, next)) : ∀ c ∈ ds, IsNumeralChar c := by
  intro c hc
  rw [(digits_of_someDigits h).1] at hc
  exact .inl (List.mem_takeWhile_imp hc)

theorem exists_taken_of_readExponentSign (cur : Cursor) :
    ∃ taken, cur.rest = taken ++ (readExponentSign cur).2.rest ∧
      ∀ c ∈ taken, IsNumeralChar c := by
  unfold readExponentSign
  split
  · next tail hrest =>
    exact ⟨['+'], by rw [Cursor.rest_advance hrest, hrest]; rfl, by simp [IsNumeralChar]⟩
  · next tail hrest =>
    exact ⟨['-'], by rw [Cursor.rest_advance hrest, hrest]; rfl, by simp [IsNumeralChar]⟩
  · exact ⟨[], rfl, nofun⟩

theorem exists_taken_of_readExponent {cur next : Cursor} {exponent : Option (Bool × List Char)}
    (h : readExponent cur = .ok (exponent, next)) :
    ∃ taken, cur.rest = taken ++ next.rest ∧ ∀ c ∈ taken, IsNumeralChar c := by
  unfold readExponent at h
  split at h
  · next c tail hrest =>
    split at h
    · next hletter =>
      obtain ⟨⟨ds, behind⟩, hds, h⟩ := bind_eq_ok_iff.mp h
      cases h
      obtain ⟨sign, hsign, hnumeral⟩ := exists_taken_of_readExponentSign cur.advance
      have hbehind : (readExponentSign cur.advance).2.rest = ds ++ next.rest :=
        rest_of_someDigits hds
      rw [Cursor.rest_advance hrest, hbehind] at hsign
      refine ⟨c :: (sign ++ ds), by rw [hrest, hsign]; simp, ?_⟩
      have hc : IsNumeralChar c := by
        rcases (by simpa using hletter : c = 'e' ∨ c = 'E') with rfl | rfl
        · exact .inr (by decide)
        · exact .inr (by decide)
      exact List.forall_mem_cons.mpr ⟨hc, List.forall_mem_append.mpr
        ⟨hnumeral, isNumeralChar_of_someDigits hds⟩⟩
    · cases h
      exact ⟨[], rfl, nofun⟩
  · cases h
    exact ⟨[], rfl, nofun⟩

/-- A numeral is made of its characters only. -/
theorem exists_taken_of_readNumeral {cur next : Cursor} {n : Numeral}
    (h : readNumeral cur = .ok (n, next)) :
    ∃ taken, cur.rest = taken ++ next.rest ∧ ∀ c ∈ taken, IsNumeralChar c := by
  have hscan := mapError_eq_ok_iff.mp h
  have hsign := rest_of_readSign cur
  unfold scanNumeral at hscan
  dsimp only at hscan
  obtain ⟨⟨whole, cur₁⟩, hwhole, hscan⟩ := bind_eq_ok_iff.mp hscan
  obtain ⟨⟨fraction, cur₂⟩, hfraction, hscan⟩ := bind_eq_ok_iff.mp hscan
  obtain ⟨⟨exponent, cur₃⟩, hexponent, hscan⟩ := bind_eq_ok_iff.mp hscan
  cases hscan
  obtain ⟨taken, htaken, hnumeral⟩ := exists_taken_of_readExponent hexponent
  rw [rest_of_readWholePart hwhole, rest_of_readFraction hfraction, htaken] at hsign
  refine ⟨(if (readSign cur).1 then ['-'] else []) ++
    (whole ++ (Numeral.fractionChars fraction ++ taken)), by rw [hsign]; simp, ?_⟩
  have hfirst : ∀ c ∈ (if (readSign cur).1 then ['-'] else []), IsNumeralChar c := by
    intro c hc
    split_ifs at hc
    · exact .inr (by rw [List.mem_singleton.mp hc]; decide)
    · cases hc
  have hpoint : ∀ c ∈ Numeral.fractionChars fraction, IsNumeralChar c := by
    unfold Numeral.fractionChars
    split_ifs
    · exact nofun
    · refine List.forall_mem_cons.mpr ⟨.inr (by decide), fun c hc => ?_⟩
      exact .inl (fraction_sound hfraction c hc)
  have hdigits : ∀ c ∈ whole, IsNumeralChar c :=
    fun c hc => .inl ((wholePart_sound hwhole).2.1 c hc)
  exact List.forall_mem_append.mpr ⟨hfirst, List.forall_mem_append.mpr
    ⟨hdigits, List.forall_mem_append.mpr ⟨hpoint, hnumeral⟩⟩⟩

end Json
end RelayDesk
