import RelayDesk.Proofs.Text.Case
import RelayDesk.Proofs.Text.Trim

/-!
Lowercase is a normal form.  No capital has a capital for its lowercase, so a text in lowercase
stays as it is.  No capital has a blank for its lowercase either, so a trimmed text stays trimmed,
and folding twice is folding once.

The full mapping and the one that knows ASCII only agree on the texts without foreign capitals, and
on no others.
-/

namespace RelayDesk
namespace Text

/-! ## The runs -/

/-- No lowercase of the first run is a capital of the second.  Where the two overlap, the
lowercase letters are those between the capitals. -/
def CaseRun.Misses (r s : CaseRun) : Prop :=
  r.target + (r.last - r.first) < s.first ∨ s.last < r.target ∨
    s.stride = 2 ∧ (r.stride = 2 ∨ r.first = r.last) ∧ (r.target + s.first) % 2 = 1

instance (r s : CaseRun) : Decidable (r.Misses s) :=
  inferInstanceAs (Decidable (_ ∨ _ ∨ _))

/-- No lowercase of the run lies between two numbers. -/
def CaseRun.Avoids (r : CaseRun) (low high : Nat) : Prop :=
  r.target + (r.last - r.first) < low ∨ high < r.target

instance (r : CaseRun) (low high : Nat) : Decidable (r.Avoids low high) :=
  inferInstanceAs (Decidable (_ ∨ _))

theorem misses_of_mem_lowerRuns : ∀ r ∈ lowerRuns, ∀ s ∈ lowerRuns, r.Misses s := by
  decide +kernel

def blankRanges : List (Nat × Nat) :=
  [(0x9, 0xD), (0x20, 0x20), (0x85, 0x85), (0xA0, 0xA0), (0x1680, 0x1680), (0x2000, 0x200A),
   (0x2028, 0x2029), (0x202F, 0x202F), (0x205F, 0x205F), (0x3000, 0x3000)]

theorem avoids_blanks_of_mem_lowerRuns :
    ∀ r ∈ lowerRuns, ∀ range ∈ blankRanges, r.Avoids range.1 range.2 := by
  decide +kernel

/-- A capital I with a dot is no lowercase, and every lowercase is the code of a character. -/
theorem avoids_of_mem_lowerRuns : ∀ r ∈ lowerRuns, r.Avoids 0x130 0x130 ∧ r.Avoids 0xD800 0xDFFF ∧
    r.target + (r.last - r.first) < 0x110000 := by
  decide +kernel

section Runs

variable {r s : CaseRun} {n m low high : Nat}

theorem CaseRun.lower?_eq_some_iff : r.lower? n = some m ↔
    (r.first ≤ n ∧ n ≤ r.last ∧ (n - r.first) % r.stride = 0) ∧ m = r.target + (n - r.first) := by
  unfold lower?
  split
  · next h => rw [Option.some.injEq, and_iff_right h, eq_comm]
  · next h => exact ⟨fun hm => (nomatch hm), fun hm => absurd hm.1 h⟩

theorem CaseRun.Misses.lower?_eq_none (h : r.Misses s) (hm : r.lower? n = some m) :
    s.lower? m = none := by
  obtain ⟨⟨hfirst, hlast, hstep⟩, rfl⟩ := lower?_eq_some_iff.mp hm
  rw [Option.eq_none_iff_forall_ne_some]
  intro k hk
  obtain ⟨⟨hfirst', hlast', hstep'⟩, -⟩ := lower?_eq_some_iff.mp hk
  rcases h with hbelow | habove | ⟨hstride, hparity, hodd⟩
  · omega
  · omega
  · rw [hstride] at hstep'
    rcases hparity with htwo | hone
    · rw [htwo] at hstep
      omega
    · omega

theorem CaseRun.Avoids.not_between (h : r.Avoids low high) (hm : r.lower? n = some m) :
    m < low ∨ high < m := by
  obtain ⟨⟨hfirst, hlast, -⟩, rfl⟩ := lower?_eq_some_iff.mp hm
  rcases h with hbelow | habove
  · omega
  · omega

end Runs

/-! ## Characters -/

section Characters

variable {c d : Char} {before after : List Char}

theorem lowerChar_cases (c : Char) :
    lowerChar c = c ∨ ∃ r ∈ lowerRuns, r.lower? c.toNat = some (lowerChar c).toNat := by
  unfold lowerChar
  split
  · next n hn =>
    obtain ⟨r, hr, hlower⟩ := List.exists_of_findSome?_eq_some hn
    obtain ⟨-, hsurrogate, hsmall⟩ := avoids_of_mem_lowerRuns r hr
    have hvalid : n.isValidChar := by
      have hapart := hsurrogate.not_between hlower
      have hrun := CaseRun.lower?_eq_some_iff.mp hlower
      unfold Nat.isValidChar
      omega
    rw [Char.toNat_ofNat, if_pos hvalid]
    exact .inr ⟨r, hr, hlower⟩
  · exact .inl rfl

theorem lowerChar_lowerChar (c : Char) : lowerChar (lowerChar c) = lowerChar c := by
  rcases lowerChar_cases c with hsame | ⟨r, hr, hlower⟩
  · exact congrArg lowerChar hsame
  · have hnone : lowerRuns.findSome? (·.lower? (lowerChar c).toNat) = none :=
      List.findSome?_eq_none_iff.mpr fun s hs =>
        (misses_of_mem_lowerRuns r hr s hs).lower?_eq_none hlower
    rw [lowerChar.eq_def (lowerChar c), hnone]

theorem lowerChar_ne_dotted (h : c ≠ 'İ') : lowerChar c ≠ 'İ' := by
  intro hdotted
  rcases lowerChar_cases c with hsame | ⟨r, hr, hlower⟩
  · exact h (hsame.symm.trans hdotted)
  · rw [hdotted] at hlower
    have hapart := (avoids_of_mem_lowerRuns r hr).1.not_between hlower
    exact absurd hapart (by decide)

theorem isBlank_iff : isBlank c = true ↔ inRanges blankRanges c.toNat = true := by
  simp [isBlank, inRanges, blankRanges]
  omega

theorem isBlank_lowerChar (h : isBlank c = false) : isBlank (lowerChar c) = false := by
  rcases lowerChar_cases c with hsame | ⟨r, hr, hlower⟩
  · rw [hsame]
    exact h
  · rw [← Bool.not_eq_true, isBlank_iff, inRanges, List.any_eq_true]
    rintro ⟨range, hrange, hin⟩
    have hapart := (avoids_blanks_of_mem_lowerRuns r hr range hrange).not_between hlower
    rw [Bool.and_eq_true, decide_eq_true_iff, decide_eq_true_iff] at hin
    omega

/-- The character is its own lowercase, wherever it stands. -/
def IsLower (c : Char) : Prop := ∀ before after, lowerAt before c after = [c]

theorem isLower_iff : IsLower c ↔ lowerChar c = c ∧ c ≠ 'İ' := by
  constructor
  · intro h
    rcases lowerAt_cases [] c [] with ⟨rfl, hfinal | hinner⟩ | ⟨rfl, hdots⟩ | ⟨-, hdotted, hsimple⟩
    · exact absurd ((h [] []).symm.trans hfinal) (by decide)
    · exact absurd ((h [] []).symm.trans hinner) (by decide)
    · exact absurd ((h [] []).symm.trans hdots) (by decide)
    · exact ⟨List.singleton_inj.mp (hsimple.symm.trans (h [] [])), hdotted⟩
  · rintro ⟨hsame, hdotted⟩ before after
    have hsigma : c ≠ 'Σ' := by
      rintro rfl
      exact absurd hsame (by decide +kernel)
    unfold lowerAt
    rw [if_neg hsigma, if_neg hdotted, hsame]

instance : DecidablePred IsLower := fun _ => decidable_of_iff _ isLower_iff.symm

theorem isLower_of_mem_lowerAt (h : d ∈ lowerAt before c after) : IsLower d := by
  refine forall_mem_lowerAt ⟨?_, ?_⟩ ⟨?_, ?_⟩ (fun hdotted => ?_) d h
  · decide +kernel
  · decide +kernel
  · decide +kernel
  · decide +kernel
  · exact isLower_iff.mpr ⟨lowerChar_lowerChar c, lowerChar_ne_dotted hdotted⟩

theorem isBlank_of_mem_lowerAt (hc : isBlank c = false) (h : d ∈ lowerAt before c after) :
    isBlank d = false :=
  forall_mem_lowerAt (P := fun d => isBlank d = false) ⟨rfl, rfl⟩ ⟨rfl, rfl⟩
    (fun _ => isBlank_lowerChar hc) d h

theorem lowerAt_ne_nil : lowerAt before c after ≠ [] := by
  unfold lowerAt
  split
  · split <;> simp
  · split <;> simp

end Characters

/-! ## Texts -/

section Texts

variable {before cs : List Char} {s : String}

theorem lowerFrom_of_isLower (h : ∀ c ∈ cs, IsLower c) : lowerFrom before cs = cs := by
  induction cs generalizing before with
  | nil => rfl
  | cons c rest ih =>
    rw [lowerFrom, h c List.mem_cons_self before rest,
      ih fun d hd => h d (List.mem_cons_of_mem c hd)]
    rfl

theorem isLower_of_mem_lowerFrom {d : Char} (h : d ∈ lowerFrom before cs) : IsLower d := by
  obtain ⟨_, _, _, hd⟩ := exists_of_mem_lowerFrom h
  exact isLower_of_mem_lowerAt hd

theorem lower_lower (s : String) : lower (lower s) = lower s := by
  unfold lower lowerChars
  rw [String.toList_ofList, lowerFrom_of_isLower fun c => isLower_of_mem_lowerFrom]

theorem lower_eq_empty_iff {s : String} : lower s = "" ↔ s = "" := by
  constructor
  · intro h
    have hchars : lowerChars s.toList = [] := by simpa [lower] using congrArg String.toList h
    cases hs : s.toList with
    | nil => simpa using congrArg String.ofList hs
    | cons c rest =>
      rw [hs] at hchars
      exact absurd (List.append_eq_nil_iff.mp hchars).1 lowerAt_ne_nil
  · rintro rfl
    rfl

theorem fold_eq_empty_iff {s : String} : fold s = "" ↔ isAllBlank s = true :=
  lower_eq_empty_iff.trans trim_eq_empty_iff

/-- What stands last in a text comes last in its lowercase. -/
theorem exists_lowerFrom_concat (before cs : List Char) (c : Char) :
    ∃ start around, lowerFrom before (cs ++ [c]) = start ++ lowerAt around c [] := by
  induction cs generalizing before with
  | nil => exact ⟨[], before, List.append_nil _⟩
  | cons d rest ih =>
    obtain ⟨start, around, hlower⟩ := ih (d :: before)
    refine ⟨lowerAt before d (rest ++ [c]) ++ start, around, ?_⟩
    rw [List.cons_append, lowerFrom, hlower, List.append_assoc]

theorem trimmed_lowerFrom (h : Trimmed cs) : Trimmed (lowerFrom before cs) where
  head d hd := by
    cases cs with
    | nil => cases hd
    | cons c rest =>
      rw [lowerFrom, List.head?_append_of_ne_nil _ lowerAt_ne_nil] at hd
      exact isBlank_of_mem_lowerAt (h.head c rfl) (List.mem_of_head? hd)
  last d hd := by
    rcases List.eq_nil_or_concat cs with rfl | ⟨start, c, rfl⟩
    · cases hd
    · obtain ⟨front, around, hlower⟩ := exists_lowerFrom_concat before start c
      rw [List.concat_eq_append, hlower, List.getLast?_append_of_ne_nil _ lowerAt_ne_nil] at hd
      refine isBlank_of_mem_lowerAt (h.last c ?_) (List.mem_of_getLast? hd)
      simp

theorem trim_fold (s : String) : trim (fold s) = fold s := by
  apply trim_of_trimmed
  unfold fold lower lowerChars trim
  rw [String.toList_ofList, String.toList_ofList]
  exact trimmed_lowerFrom (trimmed_trimChars s.toList)

theorem fold_fold (s : String) : fold (fold s) = fold s := by
  rw [fold.eq_def (fold s), trim_fold]
  exact lower_lower (trim s)

/-! ## Foreign capitals -/

/-- Every capital of the text is a letter from `A` to `Z`. -/
def AsciiCapitals (s : String) : Prop := ∀ c ∈ s.toList, 0x80 ≤ c.toNat → IsLower c

instance (s : String) : Decidable (AsciiCapitals s) :=
  List.decidableBAll (fun c : Char => 0x80 ≤ c.toNat → IsLower c) s.toList

theorem toLower_of_le {c : Char} (h : 0x80 ≤ c.toNat) : c.toLower = c := by
  apply Char.toLower_eq_of_not_isUpper
  rw [Bool.not_eq_true, isUpper_eq_false_iff]
  omega

theorem lowerAt_eq_toLower {c : Char} {after : List Char} (h : 0x80 ≤ c.toNat → IsLower c) :
    lowerAt before c after = [c.toLower] := by
  by_cases hforeign : 0x80 ≤ c.toNat
  · rw [h hforeign, toLower_of_le hforeign]
  · exact lowerAt_of_lt before after (Nat.not_le.mp hforeign)

theorem isLower_of_head?_lowerAt {c : Char} {after : List Char} (hforeign : 0x80 ≤ c.toNat)
    (h : (lowerAt before c after).head? = some c.toLower) : IsLower c := by
  rw [toLower_of_le hforeign] at h
  rw [isLower_iff]
  rcases lowerAt_cases before c after with
    ⟨rfl, hfinal | hinner⟩ | ⟨rfl, hdots⟩ | ⟨-, hdotted, hsimple⟩
  · rw [hfinal] at h
    exact absurd h (by decide)
  · rw [hinner] at h
    exact absurd h (by decide)
  · rw [hdots] at h
    exact absurd h (by decide)
  · rw [hsimple] at h
    exact ⟨Option.some.inj h, hdotted⟩

theorem lowerFrom_eq_map_toLower_iff :
    lowerFrom before cs = cs.map Char.toLower ↔ ∀ c ∈ cs, 0x80 ≤ c.toNat → IsLower c := by
  induction cs generalizing before with
  | nil => exact iff_of_true rfl fun _ hc => absurd hc List.not_mem_nil
  | cons c rest ih =>
    rw [lowerFrom, List.map_cons, List.forall_mem_cons, ← @ih (c :: before)]
    constructor
    · intro h
      have hhead := congrArg List.head? h
      rw [List.head?_append_of_ne_nil _ lowerAt_ne_nil] at hhead
      have hc := fun hforeign => isLower_of_head?_lowerAt hforeign hhead
      rw [lowerAt_eq_toLower hc] at h
      exact ⟨hc, List.tail_eq_of_cons_eq h⟩
    · rintro ⟨hc, hrest⟩
      rw [lowerAt_eq_toLower hc, hrest]
      rfl

theorem lower_eq_asciiLower_iff : lower s = asciiLower s ↔ AsciiCapitals s := by
  unfold lower asciiLower lowerChars
  rw [String.ofList_inj, lowerFrom_eq_map_toLower_iff]
  rfl

/-- The Kelvin sign is a capital of this kind, although its lowercase is a letter of ASCII. -/
example : AsciiCapitals "évora" ∧ ¬ AsciiCapitals "Évora" ∧ ¬ AsciiCapitals "\u212Aamino" := by
  decide +kernel

theorem asciiLower_lower (s : String) : asciiLower (lower s) = lower s :=
  asciiLower_of_no_capital fun _ => isUpper_of_mem_lower

theorem sameLetters_lower_iff : sameLetters (lower s) s = true ↔ AsciiCapitals s := by
  unfold sameLetters
  rw [beq_iff_eq, asciiLower_lower, lower_eq_asciiLower_iff]

end Texts

end Text
end RelayDesk
