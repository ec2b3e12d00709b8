import RelayDesk.Proofs.Cache.KeyEnds
import RelayDesk.Proofs.Json.Before
import RelayDesk.Proofs.Json.Sound
import RelayDesk.Proofs.Text.Digits

/-!
Keys of params given as text.  More characters are blanks of a text than blanks of JSON: trimming
takes them all, and reading skips only those of JSON.  A text with any other blank at an end is no
JSON until it is trimmed, and as it is it stands for itself in a key.
-/

namespace RelayDesk
namespace Json

/-! ## Blanks around a value -/

theorem leadType?_of_isBlank {c : Char} (h : Text.isBlank c = true) : leadType? c = none := by
  have hne : ∀ d, Text.isBlank d = false → c ≠ d := by
    rintro d hd rfl
    rw [h] at hd
    cases hd
  have hdigit : Text.isDigit c = false := by
    by_contra hdigit
    rw [Text.isBlank_of_isDigit (by simpa using hdigit)] at h
    cases h
  unfold leadType?
  simp [hdigit, hne '-' rfl, hne 'n' rfl, hne 't' rfl, hne 'f' rfl, hne '"' rfl, hne '[' rfl,
    hne '\x7b' rfl]

/-- What begins no value is refused where a value is to come. -/
theorem readValue_refused {c : Char} (hlead : leadType? c = none)
    (hblank : Cursor.isJsonBlank c = false) (depth : Nat) (tail : List Char) (place : Place) :
    ∃ e, readValue depth ⟨c :: tail, place⟩ = .error e := by
  have hne : ∀ d, leadType? d ≠ none → c ≠ d := by
    rintro d hd rfl
    exact hd hlead
  have hnumber : ¬ (c = '-' || Text.isDigit c) = true := by
    intro h
    rw [leadType?, if_pos h] at hlead
    cases hlead
  rw [readValue_scalar hblank (hne _ (by decide)) (hne _ (by decide))]
  unfold readScalar
  rw [if_neg (hne _ (by decide)), if_neg (hne _ (by decide)), if_neg (hne _ (by decide)),
    if_neg hnumber, if_neg (hne _ (by decide))]
  exact ⟨_, rfl⟩

theorem endsNumeral_of_allBlank {cs : List Char} (h : Text.AllBlank cs) : EndsNumeral cs := by
  have hblank : ∀ c ∈ cs.head?, Text.isBlank c = true := fun c hc => h c (List.mem_of_head? hc)
  constructor
  · intro c hc
    by_contra hdigit
    have hno := Text.isBlank_of_isDigit (c := c) (by simpa using hdigit)
    rw [hblank c hc] at hno
    cases hno
  · intro c hc
    refine ⟨?_, ?_, ?_⟩ <;> (rintro rfl; cases hblank _ hc)

section Padding

variable {t : String} {v : Json} {before after : List Char}

/-- Blanks of JSON around a text that is read make no difference. -/
theorem read_between (h : Json.read t = .ok v) (hbefore : AllJsonBlank before)
    (hafter : AllJsonBlank after) :
    Json.read (String.ofList (before ++ t.toList ++ after)) = .ok v := by
  obtain ⟨blanks, hblanks, hvalue⟩ := reads_of_read h hafter.endsNumeral
  obtain ⟨middle, hskip⟩ := readValue_blanks hbefore nestingLimit (t.toList ++ after) ⟨1, 0⟩
  obtain ⟨next, hvalue⟩ := hvalue middle
  refine read_eq_ok_iff.mpr ⟨⟨blanks ++ after, next⟩, ?_, ?_⟩
  · rw [Cursor.start, String.toList_ofList, List.append_assoc, hskip, hvalue]
  · exact List.forall_mem_append.mpr ⟨hblanks, hafter⟩

/-- Other blanks in front of a text that is read, or behind it, are refused. -/
theorem jsonBlank_of_read_between {w : Json} (h : Json.read t = .ok v)
    (hbefore : Text.AllBlank before) (hafter : Text.AllBlank after)
    (hread : Json.read (String.ofList (before ++ t.toList ++ after)) = .ok w) :
    AllJsonBlank before ∧ AllJsonBlank after := by
  obtain ⟨last, hvalue, hlast⟩ := read_eq_ok_iff.mp hread
  rw [Cursor.start, String.toList_ofList, List.append_assoc] at hvalue
  have hfront : AllJsonBlank before := by
    have hparts : before = before.takeWhile Cursor.isJsonBlank ++
        before.dropWhile Cursor.isJsonBlank := List.takeWhile_append_dropWhile.symm
    cases hdrop : before.dropWhile Cursor.isJsonBlank with
    | nil => exact List.dropWhile_eq_nil_iff.mp hdrop
    | cons c rest =>
      -- The first blank that is none of JSON stands where the value is to come.
      have hc : Cursor.isJsonBlank c = false := by
        have hhead := List.head?_dropWhile_not Cursor.isJsonBlank before
        rw [hdrop] at hhead
        exact hhead
      have hmem : c ∈ before := by
        rw [hparts, hdrop]
        simp
      have htaken : AllJsonBlank (before.takeWhile Cursor.isJsonBlank) :=
        fun d hd => List.mem_takeWhile_imp hd
      obtain ⟨middle, hskip⟩ := readValue_blanks htaken nestingLimit
        (c :: (rest ++ (t.toList ++ after))) ⟨1, 0⟩
      obtain ⟨e, he⟩ := readValue_refused (leadType?_of_isBlank (hbefore c hmem)) hc nestingLimit
        (rest ++ (t.toList ++ after)) middle
      rw [hparts, hdrop, List.append_assoc, List.cons_append, hskip, he] at hvalue
      cases hvalue
  refine ⟨hfront, ?_⟩
  obtain ⟨blanks, -, hrest⟩ := reads_of_read h (endsNumeral_of_allBlank hafter)
  obtain ⟨middle, hskip⟩ := readValue_blanks hfront nestingLimit (t.toList ++ after) ⟨1, 0⟩
  obtain ⟨next, hrest⟩ := hrest middle
  rw [hskip, hrest] at hvalue
  cases hvalue
  exact (List.forall_mem_append.mp hlast).2

end Padding

/-- No value is made of blanks. -/
theorem read_blank {t : String} (h : Text.isAllBlank t = true) : ∃ e, Json.read t = .error e := by
  have hall : ∀ c ∈ t.toList, Text.isBlank c = true := List.all_eq_true.mp h
  obtain ⟨before, -, hrest, hhead⟩ := exists_skipped (.start t)
  have hvalue : ∃ e, readValue nestingLimit (.start t) = .error e := by
    rw [← readValue_skipBlank]
    cases hskip : (Cursor.start t).skipBlank with
    | mk rest place =>
      rw [hskip] at hrest hhead
      cases rest with
      | nil =>
        unfold readValue
        exact ⟨_, rfl⟩
      | cons c tail =>
        have hmem : c ∈ t.toList := by
          show c ∈ (Cursor.start t).rest
          rw [hrest]
          simp
        exact readValue_refused (leadType?_of_isBlank (hall c hmem)) (hhead c rfl) _ tail place
  obtain ⟨e, he⟩ := hvalue
  unfold Json.read
  rw [he]
  exact ⟨e, rfl⟩

/-- Trimming takes blanks of JSON only. -/
def PaddedPlainly (t : String) : Prop :=
  ∃ before after, AllJsonBlank before ∧ AllJsonBlank after ∧
    t.toList = before ++ (Text.trim t).toList ++ after

/-- A text whose trimmed text is read is read itself exactly when it is padded plainly. -/
theorem read_iff_paddedPlainly {t : String} {v : Json} (h : Json.read (Text.trim t) = .ok v) :
    (PaddedPlainly t → Json.read t = .ok v) ∧
      (¬ PaddedPlainly t → ∃ e, Json.read t = .error e) := by
  constructor
  · rintro ⟨before, after, hbefore, hafter, hparts⟩
    rw [← read_between h hbefore hafter, ← hparts, String.ofList_toList]
  · intro hplain
    cases hread : Json.read t with
    | error e => exact ⟨e, rfl⟩
    | ok w =>
      obtain ⟨before, after, hbefore, hafter, hparts⟩ := Text.exists_blanks t.toList
      have htrim : t.toList = before ++ (Text.trim t).toList ++ after := by
        rw [Text.trim, String.toList_ofList]
        exact hparts
      rw [← String.ofList_toList (s := t), htrim] at hread
      obtain ⟨hfront, hback⟩ := jsonBlank_of_read_between h hbefore hafter hread
      exact absurd ⟨before, after, hfront, hback, htrim⟩ hplain

end Json

namespace Cache

open Json (PaddedPlainly)

/-! ## Keys of values that were read -/

theorem isBlank_of_mem_numeral {n : Json.Numeral} (wf : n.WellFormed) {c : Char}
    (hc : c ∈ n.chars) : Text.isBlank c = false := by
  have hdigit : ∀ ds : List Char, (∀ d ∈ ds, Text.isDigit d = true) → c ∈ ds →
      Text.isBlank c = false := fun ds hds hmem => Text.isBlank_of_isDigit (hds c hmem)
  rw [Json.Numeral.chars_eq] at hc
  rcases List.mem_append.mp hc with hsign | hc
  · split_ifs at hsign
    · rw [List.mem_singleton.mp hsign]
      rfl
    · cases hsign
  rcases List.mem_append.mp hc with hwhole | hc
  · exact hdigit n.whole wf.whole_digits hwhole
  rcases List.mem_append.mp hc with hfraction | hexponent
  · unfold Json.Numeral.fractionChars at hfraction
    split_ifs at hfraction
    · cases hfraction
    · rcases List.mem_cons.mp hfraction with rfl | hfraction
      · rfl
      · exact hdigit n.fraction wf.fraction_digits hfraction
  · cases he : n.exponent with
    | none =>
      rw [he] at hexponent
      cases hexponent
    | some e =>
      obtain ⟨negative, ds⟩ := e
      rw [he] at hexponent
      rcases List.mem_cons.mp hexponent with rfl | hexponent
      · rfl
      rcases List.mem_cons.mp hexponent with hsign | hds
      · rw [hsign]
        cases negative <;> rfl
      · exact hdigit ds (wf.exponent_digits negative ds he).2 hds

/-- The text of params in a key ends with no blank. -/
theorem getLast?_of_readable {depth : Nat} {v : Json} (hv : Json.Readable depth v) :
    ∃ c, (canonicalChars v).getLast? = some c ∧ Text.isBlank c = false := by
  cases hv with
  | null => exact ⟨'l', rfl, rfl⟩
  | bool b => cases b <;> exact ⟨'e', rfl, rfl⟩
  | @num _ n wf =>
    have hchars : canonicalChars (.num n.text) = n.chars := Json.chars_num n
    have hne : n.chars ≠ [] := by
      obtain ⟨c, cs, hcons, -⟩ := Json.chars_eq_cons (@Json.Readable.num depth n wf)
      rw [← Json.chars_num n, hcons]
      exact List.cons_ne_nil c cs
    rw [hchars]
    exact ⟨_, List.getLast?_eq_some_getLast hne, isBlank_of_mem_numeral wf (List.getLast_mem hne)⟩
  | str s =>
    refine ⟨'"', ?_, rfl⟩
    show ('"' :: (lowerAddress s).toList.flatMap Json.escapeChar ++ ['"']).getLast? = some '"'
    exact List.getLast?_concat
  | arr inner => exact getLast?_canonicalChars rfl
  | obj sorted inner => exact getLast?_canonicalChars rfl

theorem trim_keyOfValue_of_readable (url method : String) {depth : Nat} {v : Json}
    (hv : Json.Readable depth v) :
    Text.trim (keyOfValue url method v) = keyOfValue url method v := by
  obtain ⟨e, hend, hblank⟩ := getLast?_of_readable hv
  exact Text.trim_of_trimmed (trimmed_keyOfValue url method hend hblank)

/-! ## Keys of texts -/

section Texts

variable {url method t : String}

theorem joinKey_eq_iff (url method : String) {s s' : String} :
    joinKey url method s = joinKey url method s' ↔ s = s' := by
  unfold joinKey
  rw [String.append_right_inj]

theorem keyOfText_of_read (url method : String) {v : Json} (h : Json.read t = .ok v) :
    keyOfText url method t = keyOfValue url method v := by
  unfold keyOfText
  rw [h]

theorem keyOfText_of_refused (url method : String) {e : Json.Refusal} (h : Json.read t = .error e) :
    keyOfText url method t = joinKey url method (Text.trim t) := by
  unfold keyOfText
  rw [h]

/-- A text has the key of its trimmed text if it is padded plainly, or has nothing to lose by
standing for itself. -/
theorem keyOfValue_eq_keyOfText_iff {v : Json} (h : Json.read (Text.trim t) = .ok v) :
    keyOfValue url method v = keyOfText url method t ↔
      PaddedPlainly t ∨ canonicalText v = Text.trim t := by
  obtain ⟨hplain, hother⟩ := Json.read_iff_paddedPlainly h
  by_cases hpadded : PaddedPlainly t
  · rw [keyOfText_of_read url method (hplain hpadded)]
    exact ⟨fun _ => .inl hpadded, fun _ => rfl⟩
  · obtain ⟨e, he⟩ := hother hpadded
    rw [keyOfText_of_refused url method he, keyOfValue, joinKey_eq_iff]
    exact ⟨.inr, fun hor => hor.resolve_left hpadded⟩

/-- The key of an empty list is never that of a blank text. -/
theorem keyOfValue_nil_ne_keyOfText (h : Text.isAllBlank t = true) :
    keyOfValue url method (.arr []) ≠ keyOfText url method t := by
  obtain ⟨e, he⟩ := Json.read_blank h
  have hnil : canonicalText (.arr []) ≠ "" := by decide
  rw [keyOfText_of_refused url method he, Text.trim_eq_empty_iff.mpr h, keyOfValue, Ne,
    joinKey_eq_iff]
  exact hnil

end Texts

end Cache
end RelayDesk
