import RelayDesk.Number.Whole
import RelayDesk.Proofs.Except
import RelayDesk.Proofs.Text.Digits

/-!
The texts of whole numbers.  Digits are read as the number that they spell, as long as it is within
the bound, and nothing else is read.  A signed number may have a minus sign in front of its digits.
-/

namespace RelayDesk
namespace Number

open Text (AreDigitsOf isDigit digitValue foldDigits)

/-- The texts of an integer: digits, or digits behind a minus sign. -/
inductive Writes : Int → List Char → Prop
  | natural {n : Nat} {cs : List Char} (digits : AreDigitsOf 10 n cs) : Writes n cs
  | negative {n : Nat} {cs : List Char} (digits : AreDigitsOf 10 n cs) : Writes (-n) ('-' :: cs)

variable {bound n m : Nat} {cs : List Char}

/-! ## Digits -/

theorem le_foldDigits (n : Nat) (cs : List Char) : n ≤ foldDigits 10 n cs := by
  induction cs generalizing n with
  | nil => exact Nat.le_refl n
  | cons c rest ih =>
    have hrest := ih (10 * n + digitValue c)
    show n ≤ foldDigits 10 (10 * n + digitValue c) rest
    omega

/-- Digits only add to a number, so it stays within the bound if the whole of it does. -/
theorem readDigits_of_le (h : ∀ c ∈ cs, isDigit c = true) (hle : foldDigits 10 n cs ≤ bound) :
    readDigits bound n cs = .ok (foldDigits 10 n cs) := by
  induction cs generalizing n with
  | nil => rfl
  | cons c rest ih =>
    have hstep : 10 * n + digitValue c ≤ bound :=
      Nat.le_trans (le_foldDigits (10 * n + digitValue c) rest) hle
    unfold readDigits
    rw [if_pos (h c List.mem_cons_self)]
    dsimp only
    rw [if_pos hstep]
    exact ih (fun d hd => h d (List.mem_cons_of_mem c hd)) hle

/-- What is read from digits is the number that they spell, and is within the bound. -/
theorem of_readDigits (hn : n ≤ bound) (h : readDigits bound n cs = .ok m) :
    (∀ c ∈ cs, isDigit c = true) ∧ foldDigits 10 n cs = m ∧ m ≤ bound := by
  induction cs generalizing n with
  | nil =>
    have hnm : n = m := Except.ok.inj h
    exact ⟨by simp, hnm, hnm ▸ hn⟩
  | cons c rest ih =>
    unfold readDigits at h
    by_cases hdigit : isDigit c = true
    · by_cases hle : 10 * n + digitValue c ≤ bound
      · simp only [hdigit, hle, if_true] at h
        obtain ⟨hrest, hfold, hm⟩ := ih hle h
        exact ⟨List.forall_mem_cons.mpr ⟨hdigit, hrest⟩, hfold, hm⟩
      · simp only [hdigit, hle, if_true, if_false] at h
        cases h
    · simp only [hdigit, if_false, Bool.false_eq_true] at h
      cases h

theorem readDigits_eq_ok_iff (hne : cs ≠ []) :
    readDigits bound 0 cs = .ok n ↔ AreDigitsOf 10 n cs ∧ n ≤ bound := by
  rw [Text.areDigitsOf_iff (by decide)]
  constructor
  · intro h
    obtain ⟨hdigits, hfold, hn⟩ := of_readDigits (Nat.zero_le _) h
    exact ⟨⟨hne, fun c hc => Text.isDigit_iff.mp (hdigits c hc), hfold⟩, hn⟩
  · rintro ⟨⟨-, hdigits, rfl⟩, hn⟩
    exact readDigits_of_le (fun c hc => Text.isDigit_iff.mpr (hdigits c hc)) hn

theorem not_areDigitsOf_nil : ¬ AreDigitsOf 10 n [] := fun h =>
  ((Text.areDigitsOf_iff (by decide)).mp h).1 rfl

theorem isDigit_of_areDigitsOf {c : Char} (h : AreDigitsOf 10 n cs) (hc : c ∈ cs) :
    isDigit c = true :=
  Text.isDigit_iff.mpr (((Text.areDigitsOf_iff (by decide)).mp h).2.1 c hc)

/-! ## Numbers of 64 bits -/

theorem readWhole_of_head (hne : cs ≠ []) (hplus : cs.head? ≠ some '+') :
    readWhole bound cs = readDigits bound 0 cs := by
  unfold readWhole
  split
  · exact absurd rfl hne
  · exact absurd rfl hplus
  · exact absurd rfl hplus
  · rfl

/-- Without a plus sign, the texts of an unsigned number are its digits. -/
theorem readWhole_eq_ok_iff (hplus : cs.head? ≠ some '+') :
    readWhole bound cs = .ok n ↔ AreDigitsOf 10 n cs ∧ n ≤ bound := by
  by_cases hne : cs = []
  · subst hne
    exact ⟨nofun, fun h => absurd h.1 not_areDigitsOf_nil⟩
  · rw [readWhole_of_head hne hplus, readDigits_eq_ok_iff hne]

theorem unsigned?_eq_some_iff (hplus : cs.head? ≠ some '+') :
    unsigned? cs = some n ↔ AreDigitsOf 10 n cs ∧ n < 2 ^ 64 := by
  have hmax : maxUnsigned = 2 ^ 64 - 1 := rfl
  unfold unsigned? readUnsigned
  rw [toOption_eq_some_iff, readWhole_eq_ok_iff hplus]
  refine and_congr_right fun _ => ?_
  omega

theorem unsigned?_of_digits (hne : cs ≠ []) (h : ∀ c ∈ cs, isDigit c = true)
    (hle : Text.ofDigits 10 cs ≤ maxUnsigned) : unsigned? cs = some (Text.ofDigits 10 cs) := by
  have hplus : cs.head? ≠ some '+' := fun hhead =>
    absurd (h '+' (List.mem_of_head? hhead)) (by decide)
  have hdigits := (Text.areDigitsOf_iff (by decide)).mpr
    ⟨hne, fun c hc => Text.isDigit_iff.mp (h c hc), rfl⟩
  exact toOption_eq_some_iff.mpr ((readWhole_eq_ok_iff hplus).mpr ⟨hdigits, hle⟩)

theorem writes_minus_iff {i : Int} :
    Writes i ('-' :: cs) ↔ ∃ n : Nat, AreDigitsOf 10 n cs ∧ i = -n := by
  constructor
  · rintro (hdigits | hdigits)
    · exact absurd (isDigit_of_areDigitsOf hdigits List.mem_cons_self) (by decide)
    · exact ⟨_, hdigits, rfl⟩
  · rintro ⟨n, hdigits, rfl⟩
    exact .negative hdigits

theorem writes_iff_of_head {i : Int} (hminus : cs.head? ≠ some '-') :
    Writes i cs ↔ ∃ n : Nat, AreDigitsOf 10 n cs ∧ i = n := by
  constructor
  · rintro (hdigits | hdigits)
    · exact ⟨_, hdigits, rfl⟩
    · exact absurd rfl hminus
  · rintro ⟨n, hdigits, rfl⟩
    exact .natural hdigits

/-- Without a plus sign, the texts of a signed number are those that write it. -/
theorem signed?_eq_some_iff {i : Int} (hplus : cs.head? ≠ some '+') :
    signed? cs = some i ↔ Writes i cs ∧ -(2 : Int) ^ 63 ≤ i ∧ i < (2 : Int) ^ 63 := by
  have hmax : maxSigned = 2 ^ 63 - 1 := rfl
  unfold signed?
  split
  · rw [writes_minus_iff]
    simp [not_areDigitsOf_nil]
  · next rest hne =>
    rw [writes_minus_iff, Option.map_eq_some_iff]
    constructor
    · rintro ⟨_, hsize, rfl⟩
      obtain ⟨n, hread, hn⟩ := Option.bind_eq_some_iff.mp hsize
      obtain rfl := Option.some.inj hn
      obtain ⟨hdigits, hn⟩ := (readDigits_eq_ok_iff hne).mp (toOption_eq_some_iff.mp hread)
      exact ⟨⟨n, hdigits, rfl⟩, by omega, by omega⟩
    · rintro ⟨⟨n, hdigits, rfl⟩, hlow, -⟩
      have hread := (readDigits_eq_ok_iff hne).mpr ⟨hdigits, show n ≤ maxSigned + 1 by omega⟩
      exact ⟨n, Option.bind_eq_some_iff.mpr ⟨n, toOption_eq_some_iff.mpr hread, rfl⟩, rfl⟩
  · next hnone hminus =>
    have hhead : cs.head? ≠ some '-' := by
      intro hhead
      obtain ⟨rest, rfl⟩ := List.head?_eq_some_iff.mp hhead
      exact hminus rest rfl
    rw [writes_iff_of_head hhead, Option.map_eq_some_iff]
    constructor
    · rintro ⟨n, hread, hni⟩
      obtain ⟨hdigits, hn⟩ := (readWhole_eq_ok_iff hplus).mp (toOption_eq_some_iff.mp hread)
      have hi : i = (n : Int) := hni.symm
      exact ⟨⟨n, hdigits, hi⟩, by omega, by omega⟩
    · rintro ⟨⟨n, hdigits, rfl⟩, -, hhigh⟩
      have hread := (readWhole_eq_ok_iff hplus).mpr ⟨hdigits, show n ≤ maxSigned by omega⟩
      exact ⟨n, toOption_eq_some_iff.mpr hread, rfl⟩

end Number
end RelayDesk
