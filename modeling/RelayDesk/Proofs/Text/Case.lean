import Mathlib
import RelayDesk.Text.Basic
import RelayDesk.Text.Case

/-!
Lowercase and ASCII.  On texts of ASCII the full mapping is the one that knows their letters only.
It maps characters from far outside into ASCII as well, as the Kelvin sign into `k`, but none to a
letter from `A` to `Z`.
-/

namespace RelayDesk
namespace Text

/-! ## Characters of a lowercase -/

/-- The lowercase of a character is one of the two forms of a sigma, or a dotted i in two
characters, or its simple lowercase. -/
theorem lowerAt_cases (before : List Char) (c : Char) (after : List Char) :
    c = 'Σ' ∧ (lowerAt before c after = ['ς'] ∨ lowerAt before c after = ['σ']) ∨
      c = 'İ' ∧ lowerAt before c after = ['i', '\u0307'] ∨
      c ≠ 'Σ' ∧ c ≠ 'İ' ∧ lowerAt before c after = [lowerChar c] := by
  unfold lowerAt
  by_cases hsigma : c = 'Σ'
  · rw [if_pos hsigma]
    refine .inl ⟨hsigma, ?_⟩
    split
    · exact .inl rfl
    · exact .inr rfl
  · rw [if_neg hsigma]
    by_cases hdotted : c = 'İ'
    · rw [if_pos hdotted]
      exact .inr (.inl ⟨hdotted, rfl⟩)
    · rw [if_neg hdotted]
      exact .inr (.inr ⟨hsigma, hdotted, rfl⟩)

/-- A property of both sigmas, of both parts of a dotted i and of the simple lowercase is one of
every character that comes of `c`. -/
theorem forall_mem_lowerAt {P : Char → Prop} {before after : List Char} {c : Char}
    (hsigma : P 'ς' ∧ P 'σ') (hdots : P 'i' ∧ P '\u0307') (hsimple : c ≠ 'İ' → P (lowerChar c)) :
    ∀ d ∈ lowerAt before c after, P d := by
  rcases lowerAt_cases before c after with
    ⟨-, hfinal | hinner⟩ | ⟨-, hpair⟩ | ⟨-, hdotted, hsingle⟩
  · rw [hfinal, List.forall_mem_singleton]
    exact hsigma.1
  · rw [hinner, List.forall_mem_singleton]
    exact hsigma.2
  · rw [hpair, List.forall_mem_cons, List.forall_mem_singleton]
    exact hdots
  · rw [hsingle, List.forall_mem_singleton]
    exact hsimple hdotted

theorem exists_of_mem_lowerFrom {before cs : List Char} {d : Char} (h : d ∈ lowerFrom before cs) :
    ∃ around c after, d ∈ lowerAt around c after := by
  induction cs generalizing before with
  | nil => cases h
  | cons c rest ih =>
    rcases List.mem_append.mp h with hhere | hlater
    · exact ⟨before, c, rest, hhere⟩
    · exact ih hlater

/-! ## No capitals -/

theorem lt_target_of_mem_lowerRuns : ∀ r ∈ lowerRuns, 0x5A < r.target := by decide +kernel

theorem isUpper_eq_false_iff {c : Char} :
    c.isUpper = false ↔ ¬ (0x41 ≤ c.toNat ∧ c.toNat ≤ 0x5A) := by
  rw [← Bool.not_eq_true, not_iff_not]
  simp [Char.isUpper, UInt32.le_iff_toNat_le, ← Char.toNat_val]

theorem isUpper_ofNat {n : Nat} (h : 0x5A < n) : (Char.ofNat n).isUpper = false := by
  rw [isUpper_eq_false_iff, Char.toNat_ofNat]
  split <;> omega

theorem isUpper_lowerChar (c : Char) : (lowerChar c).isUpper = false := by
  unfold lowerChar
  split
  · next n hn =>
    obtain ⟨r, hr, hlower⟩ := List.exists_of_findSome?_eq_some hn
    have htarget := lt_target_of_mem_lowerRuns r hr
    unfold CaseRun.lower? at hlower
    split at hlower
    · obtain rfl := Option.some.inj hlower
      exact isUpper_ofNat (by omega)
    · cases hlower
  · next hnone =>
    -- The first run has all the capitals of ASCII.
    have hfirst := List.findSome?_eq_none_iff.mp hnone ⟨0x41, 0x5A, 1, 0x61⟩ List.mem_cons_self
    rw [isUpper_eq_false_iff]
    rintro ⟨hlow, hhigh⟩
    unfold CaseRun.lower? at hfirst
    rw [if_pos ⟨hlow, hhigh, Nat.mod_one _⟩] at hfirst
    cases hfirst

/-- No character of a text in lowercase is a capital of ASCII. -/
theorem isUpper_of_mem_lower {s : String} {c : Char} (h : c ∈ (lower s).toList) :
    c.isUpper = false := by
  unfold lower at h
  rw [String.toList_ofList] at h
  obtain ⟨around, d, after, hc⟩ := exists_of_mem_lowerFrom h
  exact forall_mem_lowerAt (P := fun c => c.isUpper = false) ⟨rfl, rfl⟩ ⟨rfl, rfl⟩
    (fun _ => isUpper_lowerChar d) c hc

/-! ## Texts of ASCII -/

def isAscii (s : String) : Bool := s.toList.all fun c => c.toNat < 0x80

theorem lowerChar_of_lt {c : Char} (h : c.toNat < 0x80) : lowerChar c = c.toLower := by
  have hall : ∀ n < 0x80, lowerChar (Char.ofNat n) = (Char.ofNat n).toLower := by decide +kernel
  have hc := hall c.toNat h
  rwa [Char.ofNat_toNat] at hc

theorem lowerAt_of_lt (before after : List Char) {c : Char} (h : c.toNat < 0x80) :
    lowerAt before c after = [c.toLower] := by
  have hsigma : c ≠ 'Σ' := by
    rintro rfl
    exact absurd h (by decide)
  have hdotted : c ≠ 'İ' := by
    rintro rfl
    exact absurd h (by decide)
  unfold lowerAt
  rw [if_neg hsigma, if_neg hdotted, lowerChar_of_lt h]

theorem lowerFrom_of_ascii {before cs : List Char} (h : ∀ c ∈ cs, c.toNat < 0x80) :
    lowerFrom before cs = cs.map Char.toLower := by
  induction cs generalizing before with
  | nil => rfl
  | cons c rest ih =>
    rw [lowerFrom, lowerAt_of_lt before rest (h c List.mem_cons_self),
      ih fun d hd => h d (List.mem_cons_of_mem c hd)]
    rfl

theorem lower_of_isAscii {s : String} (h : isAscii s = true) : lower s = asciiLower s := by
  have hascii : ∀ c ∈ s.toList, c.toNat < 0x80 := by simpa [isAscii] using h
  unfold lower asciiLower lowerChars
  rw [lowerFrom_of_ascii hascii]

theorem fold_of_isAscii {s : String} (h : isAscii (trim s) = true) :
    fold s = asciiLower (trim s) :=
  lower_of_isAscii h

theorem asciiLower_of_no_capital {s : String} (h : ∀ c ∈ s.toList, c.isUpper = false) :
    asciiLower s = s := by
  have hsame : ∀ c ∈ s.toList, c.toLower = c := fun c hc =>
    Char.toLower_eq_of_not_isUpper (Bool.not_eq_true _ ▸ h c hc)
  unfold asciiLower
  rw [List.map_congr_left hsame, List.map_id', String.ofList_toList]

end Text
end RelayDesk
