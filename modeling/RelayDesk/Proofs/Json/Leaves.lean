import Mathlib.Data.List.TakeWhile
import RelayDesk.Proofs.Except
import RelayDesk.Proofs.Json.Value

/-!
Reading what was written, at the leaves: strings with their escapes, and numerals.  Each lemma
speaks of a text with any rest behind it, so that leaves can stand inside containers.
-/

namespace RelayDesk
namespace Json

/-- Reading `text` from any place gives `value` and stops where `rest` is left. -/
def Reads {α : Type} (read : Cursor → Except Refusal (α × Cursor)) (text : List Char) (value : α)
    (rest : List Char) : Prop :=
  ∀ place, ∃ next, read ⟨text, place⟩ = .ok (value, ⟨rest, next⟩)

theorem Reads.unique {α : Type} {read : Cursor → Except Refusal (α × Cursor)}
    {text rest rest' : List Char} {value value' : α} (h : Reads read text value rest)
    (h' : Reads read text value' rest') : value = value' ∧ rest = rest' := by
  obtain ⟨_, hread⟩ := h ⟨1, 0⟩
  obtain ⟨_, hread'⟩ := h' ⟨1, 0⟩
  rw [hread] at hread'
  cases hread'
  exact ⟨rfl, rfl⟩

@[simp] theorem Cursor.advance_cons (c : Char) (rest : List Char) (place : Place) :
    Cursor.advance ⟨c :: rest, place⟩ = ⟨rest, place.after c⟩ := rfl

/-! ## Strings -/

theorem hexDigits_control : ∀ n < 0x20,
    ['0', '0', Nat.digitChar (n / 16), Nat.digitChar (n % 16)].all Text.isHexDigit = true ∧
      Text.ofDigits 16 ['0', '0', Nat.digitChar (n / 16), Nat.digitChar (n % 16)] = n := by
  decide

theorem unicodeStep_control {c : Char} (hc : c.toNat < 0x20) (rest : List Char) (place : Place) :
    ∃ next, unicodeStep
      ⟨'0' :: '0' :: Nat.digitChar (c.toNat / 16) :: Nat.digitChar (c.toNat % 16) :: rest, place⟩ =
        .char c ⟨rest, next⟩ := by
  obtain ⟨hhex, hvalue⟩ := hexDigits_control c.toNat hc
  have hlow : isLowSurrogate c.toNat = false := by
    simp only [isLowSurrogate, Bool.and_eq_false_iff, decide_eq_false_iff_not]
    omega
  have hhigh : isHighSurrogate c.toNat = false := by
    simp only [isHighSurrogate, Bool.and_eq_false_iff, decide_eq_false_iff_not]
    omega
  unfold unicodeStep hexEscape
  simp only [if_pos hhex, hvalue, hlow, hhigh, Bool.false_eq_true, if_false, Char.ofNat_toNat,
    Cursor.advance_cons]
  exact ⟨_, rfl⟩

/-- One step reads one character, however it was escaped. -/
theorem stringStep_escapeChar (c : Char) (rest : List Char) (place : Place) :
    ∃ next, stringStep ⟨escapeChar c ++ rest, place⟩ = .char c ⟨rest, next⟩ := by
  rcases escapeChar_cases c with ⟨e, he, hshort, hu⟩ | ⟨he, hcontrol⟩ | ⟨he, hquote, hback, hhigh⟩
  · rw [he]
    show ∃ next, escapeStep ⟨e :: rest, place.after '\\'⟩ = .char c ⟨rest, next⟩
    unfold escapeStep
    simp only [if_neg hu, hshort]
    exact ⟨_, rfl⟩
  · rw [he]
    exact unicodeStep_control hcontrol rest _
  · rw [he]
    show ∃ next, stringStep ⟨c :: rest, place⟩ = .char c ⟨rest, next⟩
    unfold stringStep
    simp only [if_neg hquote, if_neg hback, if_neg hhigh]
    exact ⟨_, rfl⟩

theorem length_le_length_escaped (cs : List Char) : cs.length ≤ (cs.flatMap escapeChar).length := by
  induction cs with
  | nil => exact Nat.le_refl 0
  | cons c rest ih =>
    have hpos := List.length_pos_of_ne_nil (escapeChar_ne_nil c)
    rw [List.flatMap_cons, List.length_append, List.length_cons]
    omega

theorem reads_stringSteps {fuel : Nat} {cs : List Char} (hfuel : cs.length < fuel)
    (rest : List Char) :
    Reads (stringSteps fuel) (cs.flatMap escapeChar ++ '"' :: rest) cs rest := by
  induction cs generalizing fuel with
  | nil =>
    intro place
    obtain ⟨fuel, rfl⟩ : ∃ n, fuel = n + 1 := ⟨fuel - 1, by simp at hfuel; omega⟩
    exact ⟨_, rfl⟩
  | cons c cs ih =>
    intro place
    obtain ⟨fuel, rfl⟩ : ∃ n, fuel = n + 1 := ⟨fuel - 1, by simp at hfuel; omega⟩
    obtain ⟨middle, hstep⟩ :=
      stringStep_escapeChar c (cs.flatMap escapeChar ++ '"' :: rest) place
    obtain ⟨next, hsteps⟩ := ih (Nat.lt_of_succ_lt_succ hfuel) middle
    refine ⟨next, ?_⟩
    rw [List.flatMap_cons, List.append_assoc, stringSteps, hstep]
    simp only [hsteps, ok_bind]
    rfl

theorem reads_string (s : String) (rest : List Char) :
    Reads readString (s.toList.flatMap escapeChar ++ '"' :: rest) s rest := by
  intro place
  have hfuel : s.toList.length < (s.toList.flatMap escapeChar ++ '"' :: rest).length + 1 := by
    have hle := length_le_length_escaped s.toList
    rw [List.length_append]
    omega
  obtain ⟨next, hsteps⟩ := reads_stringSteps hfuel rest place
  refine ⟨next, ?_⟩
  unfold readString
  rw [hsteps, ok_bind]
  show Except.ok (String.ofList s.toList, (⟨rest, next⟩ : Cursor)) = _
  rw [String.ofList_toList]

/-! ## Numerals -/

/-- No digit stands first. -/
def NoDigitHead (rest : List Char) : Prop := ∀ c ∈ rest.head?, Text.isDigit c = false

theorem digits_append {ds rest : List Char} (hds : ∀ c ∈ ds, Text.isDigit c = true)
    (hrest : NoDigitHead rest) (place : Place) :
    ∃ next, Cursor.digits ⟨ds ++ rest, place⟩ = (ds, ⟨rest, next⟩) := by
  have htake : rest.takeWhile Text.isDigit = [] := by
    cases rest with
    | nil => rfl
    | cons c tail => rw [List.takeWhile_cons, hrest c rfl]; rfl
  have hdrop : rest.dropWhile Text.isDigit = rest := by
    cases rest with
    | nil => rfl
    | cons c tail => rw [List.dropWhile_cons, hrest c rfl]; rfl
  unfold Cursor.digits
  rw [List.takeWhile_append_of_pos hds, List.dropWhile_append_of_pos hds, htake, hdrop,
    List.append_nil]
  exact ⟨_, rfl⟩

theorem someDigits_append {ds rest : List Char} (hne : ds ≠ [])
    (hds : ∀ c ∈ ds, Text.isDigit c = true) (hrest : NoDigitHead rest) (taken : Bool)
    (place : Place) :
    ∃ next, someDigits taken ⟨ds ++ rest, place⟩ = .ok (ds, ⟨rest, next⟩) := by
  obtain ⟨next, hdigits⟩ := digits_append hds hrest place
  refine ⟨next, ?_⟩
  unfold someDigits
  rw [hdigits]
  cases ds with
  | nil => exact absurd rfl hne
  | cons d ds => rfl

namespace Numeral

def fractionChars (fraction : List Char) : List Char :=
  if fraction.isEmpty then [] else '.' :: fraction

def exponentChars : Option (Bool × List Char) → List Char
  | none => []
  | some (negative, ds) => 'e' :: (if negative then '-' else '+') :: ds

theorem chars_eq (n : Numeral) :
    n.chars = (if n.negative then ['-'] else []) ++
      (n.whole ++ (fractionChars n.fraction ++ exponentChars n.exponent)) := by
  unfold Numeral.chars fractionChars
  cases n.exponent with
  | none => simp only [exponentChars, List.append_assoc]
  | some e => simp only [exponentChars, List.append_assoc]

end Numeral

/-- No character that could go on a number stands first. -/
def EndsNumeral (rest : List Char) : Prop :=
  NoDigitHead rest ∧ ∀ c ∈ rest.head?, c ≠ '.' ∧ c ≠ 'e' ∧ c ≠ 'E'

theorem EndsValue.endsNumeral {rest : List Char} (h : EndsValue rest) : EndsNumeral rest := by
  constructor
  · intro c hc
    rcases h c hc with rfl | rfl | rfl <;> decide
  · intro c hc
    rcases h c hc with rfl | rfl | rfl <;> decide

theorem isDigit_of_mem_zero {c : Char} (h : c ∈ ['0']) : Text.isDigit c = true := by
  obtain rfl := List.mem_singleton.mp h
  rfl

theorem readWholePart_append {n : Numeral} (wf : n.WellFormed) {rest : List Char}
    (hrest : NoDigitHead rest) (place : Place) :
    ∃ next, readWholePart ⟨n.whole ++ rest, place⟩ = .ok (n.whole, ⟨rest, next⟩) := by
  by_cases hzero : n.whole.head? = some '0'
  · rw [wf.whole_of_zero hzero]
    cases rest with
    | nil =>
      exact someDigits_append (List.cons_ne_nil '0' []) (fun _ => isDigit_of_mem_zero) hrest true
        place
    | cons c tail =>
      refine ⟨place.after '0', ?_⟩
      show (if Text.isDigit c then _ else _) = _
      rw [hrest c rfl]
      rfl
  · have hskip : readWholePart ⟨n.whole ++ rest, place⟩ =
        someDigits true ⟨n.whole ++ rest, place⟩ := by
      unfold readWholePart
      split
      · next c tail heq =>
        obtain ⟨d, ds, hwhole⟩ := List.exists_cons_of_ne_nil wf.whole_ne_nil
        rw [hwhole] at heq hzero
        obtain ⟨rfl, -⟩ := List.cons.inj heq
        exact absurd rfl hzero
      · rfl
    rw [hskip]
    exact someDigits_append wf.whole_ne_nil wf.whole_digits hrest true place

theorem readFraction_append {fraction rest : List Char}
    (hdigits : ∀ c ∈ fraction, Text.isDigit c = true) (hrest : NoDigitHead rest)
    (hdot : ∀ c ∈ rest.head?, c ≠ '.') (place : Place) :
    ∃ next, readFraction ⟨Numeral.fractionChars fraction ++ rest, place⟩ =
      .ok (fraction, ⟨rest, next⟩) := by
  cases fraction with
  | nil =>
    refine ⟨place, ?_⟩
    show readFraction ⟨rest, place⟩ = _
    unfold readFraction
    split
    · next tail heq =>
      have hrest : rest = '.' :: tail := heq
      rw [hrest] at hdot
      exact absurd rfl (hdot '.' rfl)
    · rfl
  | cons d ds =>
    exact someDigits_append (List.cons_ne_nil d ds) hdigits hrest false (place.after '.')

theorem readExponentSign_cons (negative : Bool) (rest : List Char) (place : Place) :
    ∃ next, readExponentSign ⟨(if negative then '-' else '+') :: rest, place⟩ =
      (negative, ⟨rest, next⟩) := by
  cases negative
  · exact ⟨_, rfl⟩
  · exact ⟨_, rfl⟩

theorem readExponent_append {exponent : Option (Bool × List Char)} {rest : List Char}
    (hdigits : ∀ sign ds, exponent = some (sign, ds) →
      ds ≠ [] ∧ ∀ c ∈ ds, Text.isDigit c = true)
    (hrest : EndsNumeral rest) (place : Place) :
    ∃ next, readExponent ⟨Numeral.exponentChars exponent ++ rest, place⟩ =
      .ok (exponent, ⟨rest, next⟩) := by
  cases exponent with
  | none =>
    refine ⟨place, ?_⟩
    show readExponent ⟨rest, place⟩ = _
    cases rest with
    | nil => rfl
    | cons c tail =>
      obtain ⟨-, he, hE⟩ := hrest.2 c rfl
      simp [readExponent, he, hE]
  | some e =>
    obtain ⟨negative, ds⟩ := e
    obtain ⟨hne, hds⟩ := hdigits negative ds rfl
    obtain ⟨middle, hsign⟩ := readExponentSign_cons negative (ds ++ rest) (place.after 'e')
    obtain ⟨next, hsome⟩ := someDigits_append hne hds hrest.1 true middle
    refine ⟨next, ?_⟩
    show readExponent ⟨'e' :: (if negative then '-' else '+') :: (ds ++ rest), place⟩ = _
    unfold readExponent
    simp only [Cursor.advance_cons, hsign, hsome, ok_bind]
    rfl

theorem noDigitHead_exponent (exponent : Option (Bool × List Char)) {rest : List Char}
    (hrest : EndsNumeral rest) :
    NoDigitHead (Numeral.exponentChars exponent ++ rest) ∧
      ∀ c ∈ (Numeral.exponentChars exponent ++ rest).head?, c ≠ '.' := by
  cases exponent with
  | none => exact ⟨hrest.1, fun c hc => (hrest.2 c hc).1⟩
  | some e =>
    constructor
    · intro c hc
      cases hc
      decide
    · intro c hc
      cases hc
      decide

theorem noDigitHead_fraction (fraction : List Char) {rest : List Char} (hrest : NoDigitHead rest) :
    NoDigitHead (Numeral.fractionChars fraction ++ rest) := by
  cases fraction with
  | nil => exact hrest
  | cons d ds =>
    intro c hc
    cases hc
    decide

/-- The sign in front of a numeral is read as such, and no digit is taken for it. -/
theorem readSign_append {n : Numeral} (wf : n.WellFormed) (rest : List Char) (place : Place) :
    ∃ next, readSign ⟨(if n.negative then ['-'] else []) ++ (n.whole ++ rest), place⟩ =
      (n.negative, ⟨n.whole ++ rest, next⟩) := by
  cases n.negative with
  | true => exact ⟨_, rfl⟩
  | false =>
    refine ⟨place, ?_⟩
    show readSign ⟨n.whole ++ rest, place⟩ = _
    obtain ⟨d, ds, hwhole⟩ := List.exists_cons_of_ne_nil wf.whole_ne_nil
    have hd : Text.isDigit d = true := wf.whole_digits d (hwhole ▸ List.mem_cons_self)
    rw [hwhole]
    unfold readSign
    split
    · next heq =>
      obtain ⟨rfl, -⟩ := List.cons.inj heq
      cases hd
    · rfl

theorem scanNumeral_append {n : Numeral} (wf : n.WellFormed) {rest : List Char}
    (hrest : EndsNumeral rest) (place : Place) :
    ∃ next, scanNumeral ⟨n.chars ++ rest, place⟩ = .ok (n, ⟨rest, next⟩) := by
  obtain ⟨hexpDigit, hexpDot⟩ := noDigitHead_exponent n.exponent hrest
  have hfracDigit := noDigitHead_fraction n.fraction hexpDigit
  obtain ⟨p₁, hsign⟩ := readSign_append wf
    (Numeral.fractionChars n.fraction ++ (Numeral.exponentChars n.exponent ++ rest)) place
  obtain ⟨p₂, hwhole⟩ := readWholePart_append wf hfracDigit p₁
  obtain ⟨p₃, hfraction⟩ := readFraction_append wf.fraction_digits hexpDigit hexpDot p₂
  obtain ⟨next, hexponent⟩ := readExponent_append wf.exponent_digits hrest p₃
  refine ⟨next, ?_⟩
  rw [Numeral.chars_eq]
  simp only [List.append_assoc]
  unfold scanNumeral
  simp only [hsign, hwhole, hfraction, hexponent, ok_bind]
  rfl

theorem reads_numeral {n : Numeral} (wf : n.WellFormed) {rest : List Char}
    (hrest : EndsNumeral rest) : Reads readNumeral (n.chars ++ rest) n rest := by
  intro place
  obtain ⟨next, hscan⟩ := scanNumeral_append wf hrest place
  exact ⟨next, mapError_eq_ok_iff.mpr hscan⟩

/-! ## What the leaves give -/

theorem digits_of_someDigits {taken : Bool} {cur next : Cursor} {ds : List Char}
    (h : someDigits taken cur = .ok (ds, next)) :
    ds = cur.rest.takeWhile Text.isDigit ∧ ds ≠ [] := by
  unfold someDigits at h
  split at h
  · cases h
  · next hne =>
    have hds : cur.digits = (ds, next) := Except.ok.inj h
    have hfst : cur.rest.takeWhile Text.isDigit = ds := congrArg Prod.fst hds
    refine ⟨hfst.symm, ?_⟩
    rintro rfl
    exact hne next hds

theorem wholePart_sound {cur next : Cursor} {ds : List Char}
    (h : readWholePart cur = .ok (ds, next)) :
    ds ≠ [] ∧ (∀ c ∈ ds, Text.isDigit c = true) ∧ (ds.head? = some '0' → ds = ['0']) := by
  unfold readWholePart at h
  split at h
  · split at h
    · cases h
    · obtain ⟨rfl, -⟩ := Prod.mk.inj (Except.ok.inj h)
      exact ⟨List.cons_ne_nil '0' [], fun _ => isDigit_of_mem_zero, fun _ => rfl⟩
  · next hlone =>
    obtain ⟨rfl, hne⟩ := digits_of_someDigits h
    refine ⟨hne, fun c hc => List.mem_takeWhile_imp hc, fun hhead => ?_⟩
    cases hrest : cur.rest with
    | nil => rw [hrest] at hne; exact absurd rfl hne
    | cons c tail =>
      rw [hrest] at hhead
      cases tail with
      | nil =>
        by_cases hc : Text.isDigit c = true
        · rw [List.takeWhile_cons, if_pos hc] at hhead ⊢
          obtain rfl : c = '0' := Option.some.inj hhead
          rfl
        · rw [List.takeWhile_cons, if_neg hc] at hhead
          cases hhead
      | cons d tail =>
        by_cases hc : Text.isDigit c = true
        · rw [List.takeWhile_cons, if_pos hc] at hhead
          obtain rfl : c = '0' := Option.some.inj hhead
          exact absurd hrest (hlone d tail)
        · rw [List.takeWhile_cons, if_neg hc] at hhead
          cases hhead

theorem fraction_sound {cur next : Cursor} {ds : List Char}
    (h : readFraction cur = .ok (ds, next)) : ∀ c ∈ ds, Text.isDigit c = true := by
  unfold readFraction at h
  split at h
  · obtain ⟨rfl, -⟩ := digits_of_someDigits h
    exact fun c hc => List.mem_takeWhile_imp hc
  · obtain ⟨rfl, -⟩ := Prod.mk.inj (Except.ok.inj h)
    intro c hc
    cases hc

theorem exponent_sound {cur next : Cursor} {exponent : Option (Bool × List Char)}
    (h : readExponent cur = .ok (exponent, next)) {sign : Bool} {ds : List Char}
    (hexponent : exponent = some (sign, ds)) : ds ≠ [] ∧ ∀ c ∈ ds, Text.isDigit c = true := by
  subst hexponent
  unfold readExponent at h
  split at h
  · split at h
    · obtain ⟨⟨digits, after⟩, hdigits, hreturn⟩ := bind_eq_ok_iff.mp h
      obtain ⟨hsome, -⟩ := Prod.mk.inj (Except.ok.inj hreturn)
      obtain ⟨-, rfl⟩ := Prod.mk.inj (Option.some.inj hsome)
      obtain ⟨rfl, hne⟩ := digits_of_someDigits hdigits
      exact ⟨hne, fun c hc => List.mem_takeWhile_imp hc⟩
    · cases h
  · cases h

theorem wellFormed_of_scanNumeral {cur next : Cursor} {n : Numeral}
    (h : scanNumeral cur = .ok (n, next)) : n.WellFormed := by
  unfold scanNumeral at h
  obtain ⟨⟨whole, cur₁⟩, hwhole, h⟩ := bind_eq_ok_iff.mp h
  obtain ⟨⟨fraction, cur₂⟩, hfraction, h⟩ := bind_eq_ok_iff.mp h
  obtain ⟨⟨exponent, cur₃⟩, hexponent, h⟩ := bind_eq_ok_iff.mp h
  obtain ⟨rfl, -⟩ := Prod.mk.inj (Except.ok.inj h)
  obtain ⟨hne, hdigits, hzero⟩ := wholePart_sound hwhole
  exact {
    whole_ne_nil := hne
    whole_digits := hdigits
    whole_of_zero := hzero
    fraction_digits := fraction_sound hfraction
    exponent_digits := fun _ _ hsome => exponent_sound hexponent hsome }

theorem wellFormed_of_readNumeral {cur next : Cursor} {n : Numeral}
    (h : readNumeral cur = .ok (n, next)) : n.WellFormed :=
  wellFormed_of_scanNumeral (mapError_eq_ok_iff.mp h)

end Json
end RelayDesk
