import RelayDesk.Proofs.Json.Blanks

/-!
Reading where more stands behind the text.  A value that is read is read as well with any text
behind it that does not go on a number, and that text is left behind what was left.  A text that
was read on its own is thus read in the same way inside a longer one.
-/

namespace RelayDesk
namespace Json

/-- What `read` gives, it gives as well with `s` behind the text, and `s` is left then. -/
def ReadsBefore {α : Type} (s : List Char) (read : Cursor → Except Refusal (α × Cursor)) : Prop :=
  ∀ cur x next, read cur = .ok (x, next) → Reads read (cur.rest ++ s) x (next.rest ++ s)

section Before

variable {s : List Char}

/-! ## Blanks and words -/

theorem skipBlank_before {cur : Cursor} {c : Char} {tail : List Char}
    (h : cur.skipBlank.rest = c :: tail) (s : List Char) (place : Place) :
    ∃ next, Cursor.skipBlank ⟨cur.rest ++ s, place⟩ = ⟨c :: (tail ++ s), next⟩ := by
  obtain ⟨before, hbefore, hrest, hhead⟩ := exists_skipped cur
  rw [h] at hrest hhead
  have hfirst : ∀ d ∈ (c :: (tail ++ s)).head?, Cursor.isJsonBlank d = false := hhead
  obtain ⟨next, hskip⟩ := skipBlank_append hbefore hfirst place
  refine ⟨next, ?_⟩
  rw [hrest, List.append_assoc, List.cons_append, hskip]

theorem word_before {expected : List Char} {cur next : Cursor}
    (h : cur.word expected = .ok next) (s : List Char) (place : Place) :
    ∃ after, Cursor.word expected ⟨cur.rest ++ s, place⟩ = .ok ⟨next.rest ++ s, after⟩ := by
  induction expected generalizing cur place with
  | nil =>
    cases h
    exact ⟨place, by unfold Cursor.word; rfl⟩
  | cons e more ih =>
    obtain ⟨text, start⟩ := cur
    cases text with
    | nil => cases h
    | cons c tail =>
      unfold Cursor.word at h
      split_ifs at h with hc
      obtain ⟨after, hword⟩ := ih h (place.after c)
      refine ⟨after, ?_⟩
      rw [List.cons_append]
      unfold Cursor.word
      rw [if_pos hc]
      exact hword

/-! ## Strings -/

theorem hexEscape_before : ReadsBefore s hexEscape := by
  rintro ⟨text, start⟩ n next h place
  unfold hexEscape at h
  split at h
  · next a b c d tail htext =>
    obtain rfl : text = a :: b :: c :: d :: tail := htext
    split_ifs at h with hhex
    cases h
    refine ⟨(((place.after a).after b).after c).after d, ?_⟩
    simp only [hexEscape, List.cons_append, if_pos hhex, Cursor.advance_cons]
  · cases h

theorem surrogateStep_escape (high : Nat) (tail : List Char) (place : Place) :
    surrogateStep high ⟨'\\' :: 'u' :: tail, place⟩ =
      match hexEscape ⟨tail, (place.after '\\').after 'u'⟩ with
      | .error e => .fail e
      | .ok (low, next) =>
        if isLowSurrogate low then .char (joinSurrogates high low) next
        else .fail (next.refuse .loneSurrogate) := rfl

theorem exists_escape_of_surrogateStep {high : Nat} {cur next : Cursor} {c : Char}
    (h : surrogateStep high cur = .char c next) :
    ∃ tail start, cur = ⟨'\\' :: 'u' :: tail, start⟩ := by
  obtain ⟨text, start⟩ := cur
  unfold surrogateStep at h
  dsimp only at h
  split at h
  · cases h
  · rw [Cursor.advance_cons] at h
    dsimp only at h
    split at h
    · cases h
    · exact ⟨_, _, rfl⟩
    · cases h
  · cases h

theorem surrogateStep_before {high : Nat} {cur next : Cursor} {c : Char}
    (h : surrogateStep high cur = .char c next) (s : List Char) (place : Place) :
    ∃ after, surrogateStep high ⟨cur.rest ++ s, place⟩ = .char c ⟨next.rest ++ s, after⟩ := by
  obtain ⟨tail, start, rfl⟩ := exists_escape_of_surrogateStep h
  rw [surrogateStep_escape] at h
  rw [List.cons_append, List.cons_append, surrogateStep_escape]
  split at h
  · cases h
  · next low behind hlow =>
    obtain ⟨after, hhex⟩ := hexEscape_before (s := s) _ _ _ hlow ((place.after '\\').after 'u')
    split_ifs at h with hrange
    obtain ⟨rfl, rfl⟩ := StringStep.char.inj h
    refine ⟨after, ?_⟩
    rw [hhex]
    simp only [if_pos hrange]

theorem unicodeStep_before {cur next : Cursor} {c : Char} (h : unicodeStep cur = .char c next)
    (s : List Char) (place : Place) :
    ∃ after, unicodeStep ⟨cur.rest ++ s, place⟩ = .char c ⟨next.rest ++ s, after⟩ := by
  unfold unicodeStep at h
  split at h
  · cases h
  · next n behind hn =>
    obtain ⟨stop, hhex⟩ := hexEscape_before (s := s) _ _ _ hn place
    unfold unicodeStep
    rw [hhex]
    dsimp only
    split_ifs at h ⊢ with hlow hhigh
    · exact surrogateStep_before h s stop
    · cases h
      exact ⟨stop, rfl⟩

theorem escapeStep_before {cur next : Cursor} {c : Char} (h : escapeStep cur = .char c next)
    (s : List Char) (place : Place) :
    ∃ after, escapeStep ⟨cur.rest ++ s, place⟩ = .char c ⟨next.rest ++ s, after⟩ := by
  obtain ⟨text, start⟩ := cur
  cases text with
  | nil => cases h
  | cons d tail =>
    unfold escapeStep at h ⊢
    dsimp only [List.cons_append] at h ⊢
    by_cases hu : d = 'u'
    · rw [if_pos hu] at h ⊢
      exact unicodeStep_before h s (place.after d)
    · rw [if_neg hu] at h ⊢
      cases hshort : shortEscape? d with
      | none =>
        rw [hshort] at h
        cases h
      | some e =>
        rw [hshort] at h
        cases h
        exact ⟨place.after d, rfl⟩

theorem stringStep_before {cur next : Cursor} {c : Char} (h : stringStep cur = .char c next)
    (s : List Char) (place : Place) :
    ∃ after, stringStep ⟨cur.rest ++ s, place⟩ = .char c ⟨next.rest ++ s, after⟩ := by
  obtain ⟨text, start⟩ := cur
  cases text with
  | nil => cases h
  | cons d tail =>
    unfold stringStep at h ⊢
    dsimp only [List.cons_append] at h ⊢
    by_cases hquote : d = '"'
    · rw [if_pos hquote] at h
      cases h
    · rw [if_neg hquote] at h ⊢
      split_ifs at h ⊢ with hback hcontrol
      · exact escapeStep_before h s _
      · cases h
        exact ⟨_, rfl⟩

theorem surrogateStep_ne_finish (high : Nat) (cur next : Cursor) :
    surrogateStep high cur ≠ .finish next := by
  unfold surrogateStep
  dsimp only
  split
  · exact nofun
  · split
    · exact nofun
    · split
      · exact nofun
      · split_ifs <;> exact nofun
    · exact nofun
  · exact nofun

theorem escapeStep_ne_finish (cur next : Cursor) : escapeStep cur ≠ .finish next := by
  unfold escapeStep
  split
  · exact nofun
  · split_ifs
    · unfold unicodeStep
      split
      · exact nofun
      · split_ifs
        · exact nofun
        · exact surrogateStep_ne_finish _ _ next
        · exact nofun
    · split <;> exact nofun

theorem rest_of_finish {cur next : Cursor} (h : stringStep cur = .finish next) :
    cur.rest = '"' :: next.rest := by
  obtain ⟨text, start⟩ := cur
  cases text with
  | nil => cases h
  | cons d tail =>
    unfold stringStep at h
    dsimp only at h
    split_ifs at h with hquote hback hcontrol
    · cases h
      rw [hquote]
      rfl
    · exact absurd h (escapeStep_ne_finish _ next)

/-- The steps that were enough for a text are enough for it with more behind it. -/
theorem stringSteps_before {fuel : Nat} {cur next : Cursor} {cs : List Char}
    (h : stringSteps fuel cur = .ok (cs, next)) {fuel' : Nat} (hfuel : fuel ≤ fuel')
    (s : List Char) : Reads (stringSteps fuel') (cur.rest ++ s) cs (next.rest ++ s) := by
  induction fuel generalizing cur cs fuel' with
  | zero => cases h
  | succ fuel ih =>
    intro place
    obtain ⟨fuel', rfl⟩ : ∃ n, fuel' = n + 1 := ⟨fuel' - 1, by omega⟩
    unfold stringSteps at h
    split at h
    · cases h
    · next last hstep =>
      cases h
      rw [rest_of_finish hstep]
      exact ⟨_, rfl⟩
    · next c middle hstep =>
      obtain ⟨⟨more, last⟩, hmore, h⟩ := bind_eq_ok_iff.mp h
      cases h
      obtain ⟨p₁, hstep⟩ := stringStep_before hstep s place
      obtain ⟨p₂, hsteps⟩ := ih hmore (Nat.le_of_succ_le_succ hfuel) p₁
      refine ⟨p₂, ?_⟩
      rw [stringSteps, hstep]
      simp only [hsteps, ok_bind]
      rfl

theorem readString_before : ReadsBefore s readString := by
  intro cur text next h place
  obtain ⟨⟨cs, last⟩, hsteps, h⟩ := bind_eq_ok_iff.mp h
  cases h
  have hfuel : cur.rest.length + 1 ≤ (cur.rest ++ s).length + 1 := by
    rw [List.length_append]
    omega
  obtain ⟨after, hsteps⟩ := stringSteps_before hsteps hfuel s place
  refine ⟨after, ?_⟩
  unfold readString
  rw [hsteps]
  rfl

/-! ## Numerals -/

theorem NoDigitHead.append {text : List Char} (htext : NoDigitHead text) (hs : NoDigitHead s) :
    NoDigitHead (text ++ s) := by
  cases text with
  | nil => exact hs
  | cons c tail => exact htext

theorem someDigits_before (hs : NoDigitHead s) {taken : Bool} {cur next : Cursor} {ds : List Char}
    (h : someDigits taken cur = .ok (ds, next)) (place : Place) :
    ∃ after, someDigits taken ⟨cur.rest ++ s, place⟩ = .ok (ds, ⟨next.rest ++ s, after⟩) := by
  have hne : ds ≠ [] := (digits_of_someDigits h).2
  have hfound : cur.digits = (ds, next) := by
    unfold someDigits at h
    split at h
    · cases h
    · exact Except.ok.inj h
  obtain ⟨rfl, rfl⟩ := Prod.mk.inj hfound
  have hleft : NoDigitHead (cur.rest.dropWhile Text.isDigit) := by
    intro c hc
    have hhead := List.head?_dropWhile_not Text.isDigit cur.rest
    rw [Option.mem_def.mp hc] at hhead
    exact hhead
  have hparts : cur.rest ++ s =
      cur.rest.takeWhile Text.isDigit ++ (cur.rest.dropWhile Text.isDigit ++ s) := by
    rw [← List.append_assoc, List.takeWhile_append_dropWhile]
  rw [hparts]
  exact someDigits_append hne (fun c hc => List.mem_takeWhile_imp hc) (hleft.append hs) taken place

theorem readWholePart_before (hs : NoDigitHead s) {cur next : Cursor} {ds : List Char}
    (h : readWholePart cur = .ok (ds, next)) (place : Place) :
    ∃ after, readWholePart ⟨cur.rest ++ s, place⟩ = .ok (ds, ⟨next.rest ++ s, after⟩) := by
  obtain ⟨text, start⟩ := cur
  unfold readWholePart at h
  split at h
  · next c tail htext =>
    obtain rfl : text = '0' :: c :: tail := htext
    split_ifs at h with hdigit
    cases h
    refine ⟨place.after '0', ?_⟩
    show (if Text.isDigit c then _ else _) = _
    rw [if_neg hdigit]
    rfl
  · next hlone =>
    by_cases hzero : text = ['0']
    · -- A zero at the end of the text is the whole part also where a text begins behind it.
      subst hzero
      cases h
      cases s with
      | nil => exact ⟨_, rfl⟩
      | cons c tail =>
        refine ⟨place.after '0', ?_⟩
        show (if Text.isDigit c then _ else _) = _
        rw [hs c rfl]
        rfl
    · have hskip : readWholePart ⟨text ++ s, place⟩ = someDigits true ⟨text ++ s, place⟩ := by
        unfold readWholePart
        split
        · next c tail heq =>
          cases text with
          | nil => cases h
          | cons d rest =>
            obtain ⟨rfl, hrest⟩ := List.cons.inj heq
            cases rest with
            | nil => exact absurd rfl hzero
            | cons e rest => exact absurd rfl (hlone e rest)
        · rfl
      rw [hskip]
      exact someDigits_before hs h place

theorem readFraction_before (hs : NoDigitHead s) (hdot : ∀ c ∈ s.head?, c ≠ '.')
    {cur next : Cursor} {ds : List Char} (h : readFraction cur = .ok (ds, next)) (place : Place) :
    ∃ after, readFraction ⟨cur.rest ++ s, place⟩ = .ok (ds, ⟨next.rest ++ s, after⟩) := by
  obtain ⟨text, start⟩ := cur
  unfold readFraction at h
  split at h
  · next tail htext =>
    obtain rfl : text = '.' :: tail := htext
    exact someDigits_before hs h (place.after '.')
  · next hplain =>
    cases h
    refine ⟨place, ?_⟩
    unfold readFraction
    split
    · next tail heq =>
      cases text with
      | nil =>
        have hhead : s = '.' :: tail := heq
        rw [hhead] at hdot
        exact absurd rfl (hdot '.' rfl)
      | cons c rest =>
        obtain ⟨rfl, -⟩ := List.cons.inj heq
        exact absurd rfl (hplain rest)
    · rfl

theorem readExponentSign_before {cur : Cursor} (hne : cur.rest ≠ []) (s : List Char)
    (place : Place) :
    ∃ after, readExponentSign ⟨cur.rest ++ s, place⟩ =
      ((readExponentSign cur).1, ⟨(readExponentSign cur).2.rest ++ s, after⟩) := by
  obtain ⟨text, start⟩ := cur
  cases text with
  | nil => exact absurd rfl hne
  | cons c tail =>
    by_cases hplus : c = '+'
    · subst hplus
      exact ⟨_, rfl⟩
    · by_cases hminus : c = '-'
      · subst hminus
        exact ⟨_, rfl⟩
      · refine ⟨place, ?_⟩
        simp [readExponentSign, hplus, hminus]

theorem readExponent_before (hs : EndsNumeral s) {cur next : Cursor}
    {exponent : Option (Bool × List Char)} (h : readExponent cur = .ok (exponent, next))
    (place : Place) :
    ∃ after, readExponent ⟨cur.rest ++ s, place⟩ = .ok (exponent, ⟨next.rest ++ s, after⟩) := by
  obtain ⟨text, start⟩ := cur
  cases text with
  | nil =>
    cases h
    refine ⟨place, ?_⟩
    show readExponent ⟨s, place⟩ = _
    cases s with
    | nil => rfl
    | cons c tail =>
      obtain ⟨-, he, hE⟩ := hs.2 c rfl
      simp [readExponent, he, hE]
  | cons c tail =>
    unfold readExponent at h ⊢
    dsimp only [List.cons_append, Cursor.advance_cons] at h ⊢
    split_ifs at h ⊢ with hletter
    · obtain ⟨⟨ds, behind⟩, hds, h⟩ := bind_eq_ok_iff.mp h
      cases h
      have hne : tail ≠ [] := by
        rintro rfl
        cases hds
      have hbehind : (⟨tail, start.after c⟩ : Cursor).rest ≠ [] := hne
      obtain ⟨p₁, hsign⟩ := readExponentSign_before hbehind s (place.after c)
      obtain ⟨p₂, hdigits⟩ := someDigits_before hs.1 hds p₁
      refine ⟨p₂, ?_⟩
      dsimp only at hsign
      rw [hsign]
      dsimp only
      rw [hdigits]
      rfl
    · cases h
      exact ⟨place, rfl⟩

theorem readSign_before {cur : Cursor} (hne : cur.rest ≠ []) (s : List Char) (place : Place) :
    ∃ after, readSign ⟨cur.rest ++ s, place⟩ =
      ((readSign cur).1, ⟨(readSign cur).2.rest ++ s, after⟩) := by
  obtain ⟨text, start⟩ := cur
  cases text with
  | nil => exact absurd rfl hne
  | cons c tail =>
    by_cases hminus : c = '-'
    · subst hminus
      exact ⟨_, rfl⟩
    · refine ⟨place, ?_⟩
      simp [readSign, hminus]

theorem readNumeral_before (hs : EndsNumeral s) : ReadsBefore s readNumeral := by
  intro cur n next h place
  have hscan := mapError_eq_ok_iff.mp h
  unfold scanNumeral at hscan
  dsimp only at hscan
  obtain ⟨⟨whole, cur₁⟩, hwhole, hscan⟩ := bind_eq_ok_iff.mp hscan
  obtain ⟨⟨fraction, cur₂⟩, hfraction, hscan⟩ := bind_eq_ok_iff.mp hscan
  obtain ⟨⟨exponent, cur₃⟩, hexponent, hscan⟩ := bind_eq_ok_iff.mp hscan
  cases hscan
  have hne : cur.rest ≠ [] := by
    intro hnil
    obtain ⟨text, start⟩ := cur
    obtain rfl : text = [] := hnil
    cases hwhole
  obtain ⟨p₁, hsign⟩ := readSign_before hne s place
  obtain ⟨p₂, hwhole⟩ := readWholePart_before hs.1 hwhole p₁
  obtain ⟨p₃, hfraction⟩ := readFraction_before hs.1 (fun c hc => (hs.2 c hc).1) hfraction p₂
  obtain ⟨p₄, hexponent⟩ := readExponent_before hs hexponent p₃
  refine ⟨p₄, mapError_eq_ok_iff.mpr ?_⟩
  unfold scanNumeral
  simp only [hsign, hwhole, hfraction, hexponent, ok_bind]
  rfl

/-! ## Containers -/

theorem nextItem_before (first : Bool) : ReadsBefore s (nextItem first) := by
  intro cur more next h place
  unfold nextItem at h ⊢
  dsimp only at h
  split at h
  · cases h
  · next c tail hrest =>
    obtain ⟨p, hskip⟩ := skipBlank_before hrest s place
    rw [hskip]
    dsimp only
    split_ifs at h ⊢
    · cases h
      exact ⟨p, by rw [hrest]; rfl⟩
    · cases h
      exact ⟨p, by rw [hrest]; rfl⟩
    · split at h
      · cases h
      · next d behind hbehind =>
        obtain ⟨p', hskip'⟩ := skipBlank_before hbehind s (p.after c)
        rw [Cursor.rest_advance hrest] at hskip'
        rw [Cursor.advance_cons, hskip']
        dsimp only
        split_ifs at h ⊢
        cases h
        exact ⟨p', by rw [hbehind]; rfl⟩

theorem nextKey_before (first : Bool) : ReadsBefore s (nextKey first) := by
  intro cur more next h place
  unfold nextKey at h ⊢
  dsimp only at h
  split at h
  · cases h
  · next c tail hrest =>
    obtain ⟨p, hskip⟩ := skipBlank_before hrest s place
    rw [hskip]
    dsimp only
    split_ifs at h ⊢
    · cases h
      exact ⟨p, by rw [hrest]; rfl⟩
    · cases h
      exact ⟨p, by rw [hrest]; rfl⟩
    · split at h
      · cases h
      · next d behind hbehind =>
        obtain ⟨p', hskip'⟩ := skipBlank_before hbehind s (p.after c)
        rw [Cursor.rest_advance hrest] at hskip'
        rw [Cursor.advance_cons, hskip']
        dsimp only
        split_ifs at h ⊢
        cases h
        exact ⟨p', by rw [hbehind]; rfl⟩

/-- Where a key is to come, its quote is next. -/
theorem rest_of_nextKey {first : Bool} {cur next : Cursor}
    (h : nextKey first cur = .ok (true, next)) : ∃ tail, next.rest = '"' :: tail := by
  unfold nextKey at h
  dsimp only at h
  split at h
  · cases h
  · next c tail hrest =>
    split_ifs at h with hend hfirst hquote hcomma
    · cases h
    · cases h
      exact ⟨tail, by rw [hrest, hquote]⟩
    · split at h
      · cases h
      · next d behind hbehind =>
        split_ifs at h with hquote
        cases h
        exact ⟨behind, by rw [hbehind, hquote]⟩

theorem readColon_before {cur next : Cursor} (h : readColon cur = .ok next) (s : List Char)
    (place : Place) : ∃ after, readColon ⟨cur.rest ++ s, place⟩ = .ok ⟨next.rest ++ s, after⟩ := by
  unfold readColon at h ⊢
  dsimp only at h
  split at h
  · cases h
  · next c tail hrest =>
    obtain ⟨p, hskip⟩ := skipBlank_before hrest s place
    rw [hskip]
    dsimp only
    split_ifs at h ⊢
    cases h
    exact ⟨p.after c, by rw [Cursor.rest_advance hrest]; rfl⟩

theorem closeArray_before {cur : Cursor} (h : (closeArray cur).1 = .ok ()) (s : List Char)
    (place : Place) :
    ∃ after, closeArray ⟨cur.rest ++ s, place⟩ =
      (.ok (), ⟨(closeArray cur).2.rest ++ s, after⟩) := by
  unfold closeArray at h ⊢
  dsimp only at h ⊢
  split at h
  · cases h
  · next c tail hrest =>
    obtain ⟨p, hskip⟩ := skipBlank_before hrest s place
    rw [hskip]
    dsimp only
    split_ifs at h ⊢ with hend
    exact ⟨p.after c, by rw [Cursor.rest_advance hrest]; rfl⟩

theorem closeObject_before {cur : Cursor} (h : (closeObject cur).1 = .ok ()) (s : List Char)
    (place : Place) :
    ∃ after, closeObject ⟨cur.rest ++ s, place⟩ =
      (.ok (), ⟨(closeObject cur).2.rest ++ s, after⟩) := by
  unfold closeObject at h ⊢
  dsimp only at h ⊢
  split at h
  · cases h
  · next c tail hrest =>
    obtain ⟨p, hskip⟩ := skipBlank_before hrest s place
    rw [hskip]
    dsimp only
    split_ifs at h ⊢ with hend
    exact ⟨p.after c, by rw [Cursor.rest_advance hrest]; rfl⟩

section Containers

variable {α : Type} {item : Cursor → Except Refusal (α × Cursor)}

/-- The steps that were enough for the parts are enough for them with more behind the container. -/
theorem readParts_before {fault : Fault} {next : Bool → Cursor → Except Refusal (Bool × Cursor)}
    (hnext : ∀ first, ReadsBefore s (next first)) (hitem : ReadsBefore s item) {fuel : Nat}
    {first : Bool} {cur last : Cursor} {xs : List α}
    (h : readParts fault next item fuel first cur = .ok (xs, last)) {fuel' : Nat}
    (hfuel : fuel ≤ fuel') :
    Reads (readParts fault next item fuel' first) (cur.rest ++ s) xs (last.rest ++ s) := by
  induction fuel generalizing first cur xs fuel' with
  | zero => cases h
  | succ fuel ih =>
    intro place
    obtain ⟨fuel', rfl⟩ : ∃ n, fuel' = n + 1 := ⟨fuel' - 1, by omega⟩
    rw [readParts] at h ⊢
    obtain ⟨⟨more, cur₁⟩, hmore, h⟩ := bind_eq_ok_iff.mp h
    obtain ⟨p₁, hmore⟩ := hnext first _ _ _ hmore place
    rw [hmore, ok_bind]
    cases more with
    | false =>
      cases h
      exact ⟨p₁, rfl⟩
    | true =>
      obtain ⟨⟨x, cur₂⟩, hx, h⟩ := bind_eq_ok_iff.mp h
      obtain ⟨⟨rest, cur₃⟩, hrest, h⟩ := bind_eq_ok_iff.mp h
      cases h
      obtain ⟨p₂, hx⟩ := hitem _ _ _ hx p₁
      obtain ⟨p₃, hrest⟩ := ih hrest (Nat.le_of_succ_le_succ hfuel) p₂
      refine ⟨p₃, ?_⟩
      simp only [if_true, hx, ok_bind, hrest]
      rfl

theorem length_le_before (cur : Cursor) (s : List Char) :
    cur.rest.length + 1 ≤ (cur.rest ++ s).length + 1 := by
  rw [List.length_append]
  omega

theorem readArray_before (hitem : ReadsBefore s item) : ReadsBefore s (readArray item) := by
  intro cur xs next h place
  obtain ⟨⟨ys, cur₁⟩, hitems, h⟩ := bind_eq_ok_iff.mp h
  obtain ⟨⟨⟩, hclosed, h⟩ := bind_eq_ok_iff.mp h
  cases h
  rw [readItems_eq] at hitems
  obtain ⟨p₁, hitems⟩ :=
    readParts_before nextItem_before hitem hitems (length_le_before cur s) place
  obtain ⟨p₂, hclosed⟩ := closeArray_before hclosed s p₁
  refine ⟨p₂, ?_⟩
  unfold readArray
  rw [readItems_eq]
  simp only [hitems, ok_bind, hclosed]
  rfl

theorem readMember_before (hitem : ReadsBefore s item) : ReadsBefore s (readMember item) := by
  rintro ⟨text, start⟩ m next h place
  cases text with
  | nil => cases h
  | cons c tail =>
    obtain ⟨⟨key, cur₁⟩, hkey, h⟩ := bind_eq_ok_iff.mp h
    obtain ⟨cur₂, hcolon, h⟩ := bind_eq_ok_iff.mp h
    obtain ⟨⟨x, cur₃⟩, hx, h⟩ := bind_eq_ok_iff.mp h
    cases h
    obtain ⟨p₁, hkey⟩ := readString_before (s := s) _ _ _ hkey (place.after c)
    obtain ⟨p₂, hcolon⟩ := readColon_before hcolon s p₁
    obtain ⟨p₃, hx⟩ := hitem _ _ _ hx p₂
    refine ⟨p₃, ?_⟩
    rw [Cursor.advance_cons] at hkey
    unfold readMember
    rw [List.cons_append, Cursor.advance_cons, hkey, ok_bind]
    simp only [hcolon, ok_bind, hx]
    rfl

theorem readObject_before (hitem : ReadsBefore s item) : ReadsBefore s (readObject item) := by
  intro cur ms next h place
  obtain ⟨⟨ns, cur₁⟩, hmembers, h⟩ := bind_eq_ok_iff.mp h
  obtain ⟨⟨⟩, hclosed, h⟩ := bind_eq_ok_iff.mp h
  cases h
  rw [readMembers_eq] at hmembers
  obtain ⟨p₁, hmembers⟩ := readParts_before nextKey_before (readMember_before hitem) hmembers
    (length_le_before cur s) place
  obtain ⟨p₂, hclosed⟩ := closeObject_before hclosed s p₁
  refine ⟨p₂, ?_⟩
  unfold readObject
  rw [readMembers_eq]
  simp only [hmembers, ok_bind, hclosed]
  rfl

/-! ## Marked numbers -/

theorem numberMark?_eq_some_iff {cur next : Cursor} :
    numberMark? cur = some next ↔ ∃ start,
      nextKey true cur = .ok (true, start) ∧ readString start.advance = .ok (numberKey, next) := by
  unfold numberMark?
  constructor
  · intro h
    split at h
    · next start hstart =>
      split at h
      · next key behind hkey =>
        split_ifs at h with hmark
        cases h
        exact ⟨start, hstart, hmark ▸ hkey⟩
      · cases h
    · cases h
  · rintro ⟨start, hstart, hkey⟩
    rw [hstart]
    dsimp only
    rw [hkey]
    exact if_pos rfl

/-- The key that is next, with more behind the text. -/
theorem readKey_before {cur start next : Cursor} {key : String}
    (hstart : nextKey true cur = .ok (true, start))
    (hkey : readString start.advance = .ok (key, next)) (s : List Char) (place : Place) :
    ∃ start' after, nextKey true ⟨cur.rest ++ s, place⟩ = .ok (true, start') ∧
      readString start'.advance = .ok (key, ⟨next.rest ++ s, after⟩) := by
  obtain ⟨p₁, hquote⟩ := nextKey_before (s := s) true _ _ _ hstart place
  obtain ⟨tail, htail⟩ := rest_of_nextKey hstart
  obtain ⟨p₂, hstring⟩ := readString_before (s := s) _ _ _ hkey (p₁.after '"')
  refine ⟨_, p₂, hquote, ?_⟩
  rw [Cursor.rest_advance htail] at hstring
  rw [htail, List.cons_append, Cursor.advance_cons, hstring]

theorem numberMark?_before {cur next : Cursor} (h : numberMark? cur = some next) (s : List Char)
    (place : Place) :
    ∃ after, numberMark? ⟨cur.rest ++ s, place⟩ = some ⟨next.rest ++ s, after⟩ := by
  obtain ⟨start, hstart, hkey⟩ := numberMark?_eq_some_iff.mp h
  obtain ⟨start', after, hstart', hkey'⟩ := readKey_before hstart hkey s place
  exact ⟨after, numberMark?_eq_some_iff.mpr ⟨start', hstart', hkey'⟩⟩

/-- An object that is read and marks no number marks none with more behind it. -/
theorem numberMark?_eq_none_before {cur next : Cursor} {ms : List (String × α)}
    (hobject : readObject item cur = .ok (ms, next)) (h : numberMark? cur = none) (s : List Char)
    (place : Place) : numberMark? ⟨cur.rest ++ s, place⟩ = none := by
  obtain ⟨⟨ns, cur₁⟩, hmembers, -⟩ := bind_eq_ok_iff.mp hobject
  rw [readMembers] at hmembers
  obtain ⟨⟨more, start⟩, hstart, hmembers⟩ := bind_eq_ok_iff.mp hmembers
  cases more with
  | false =>
    obtain ⟨p, hend⟩ := nextKey_before (s := s) true _ _ _ hstart place
    unfold numberMark?
    rw [hend]
  | true =>
    obtain ⟨⟨m, cur₂⟩, hmember, -⟩ := bind_eq_ok_iff.mp hmembers
    obtain ⟨⟨key, cur₃⟩, hkey, -⟩ := bind_eq_ok_iff.mp hmember
    have hordinary : key ≠ numberKey := by
      rintro rfl
      rw [numberMark?_eq_some_iff.mpr ⟨start, hstart, hkey⟩] at h
      cases h
    obtain ⟨start', after, hstart', hkey'⟩ := readKey_before hstart hkey s place
    unfold numberMark?
    rw [hstart']
    dsimp only
    rw [hkey']
    exact if_neg hordinary

theorem readTaggedNumber_before : ReadsBefore s readTaggedNumber := by
  intro cur v next h place
  unfold readTaggedNumber at h ⊢
  dsimp only at h
  split at h
  · cases h
  · next c tail hrest =>
    obtain ⟨p₁, hskip⟩ := skipBlank_before hrest s place
    rw [hskip]
    dsimp only
    split_ifs at h ⊢
    obtain ⟨⟨text, cur₁⟩, htext, h⟩ := bind_eq_ok_iff.mp h
    obtain ⟨n, hn, h⟩ := bind_eq_ok_iff.mp h
    cases h
    obtain ⟨p₂, htext⟩ := readString_before (s := s) _ _ _ htext (p₁.after c)
    rw [Cursor.rest_advance hrest] at htext
    refine ⟨p₂, ?_⟩
    rw [Cursor.advance_cons, htext, ok_bind]
    simp only [hn, ok_bind]
    rfl

end Containers

theorem readBraced_before {item : Cursor → Except Refusal (Json × Cursor)}
    (hitem : ReadsBefore s item) : ReadsBefore s (readBraced item) := by
  intro cur v next h place
  unfold readBraced at h ⊢
  split at h
  · next behind hmark =>
    obtain ⟨p₁, hmark⟩ := numberMark?_before hmark s place
    rw [hmark]
    obtain ⟨cur₁, hcolon, h⟩ := bind_eq_ok_iff.mp h
    obtain ⟨⟨w, cur₂⟩, hw, h⟩ := bind_eq_ok_iff.mp h
    obtain ⟨⟨⟩, hclosed, h⟩ := bind_eq_ok_iff.mp h
    cases h
    obtain ⟨p₂, hcolon⟩ := readColon_before hcolon s p₁
    obtain ⟨p₃, hw⟩ := readTaggedNumber_before (s := s) _ _ _ hw p₂
    obtain ⟨p₄, hclosed⟩ := closeObject_before hclosed s p₃
    refine ⟨p₄, ?_⟩
    simp only [hcolon, ok_bind, hw, hclosed]
    rfl
  · next hmark =>
    obtain ⟨⟨ms, cur₁⟩, hms, h⟩ := bind_eq_ok_iff.mp h
    cases h
    rw [numberMark?_eq_none_before hms hmark s place]
    obtain ⟨p₁, hms⟩ := readObject_before hitem _ _ _ hms place
    refine ⟨p₁, ?_⟩
    simp only [hms, ok_bind]
    rfl

/-! ## Values -/

theorem readScalar_before (hs : EndsNumeral s) {c : Char} {cur next : Cursor} {v : Json}
    (hne : cur.rest ≠ []) (h : readScalar c cur = .ok (v, next)) :
    Reads (readScalar c) (cur.rest ++ s) v (next.rest ++ s) := by
  intro place
  obtain ⟨text, start⟩ := cur
  cases text with
  | nil => exact absurd rfl hne
  | cons d tail =>
    rw [List.cons_append]
    unfold readScalar at h ⊢
    rw [Cursor.advance_cons] at h ⊢
    split_ifs at h ⊢
    · obtain ⟨cur₁, hword, h⟩ := bind_eq_ok_iff.mp h
      cases h
      obtain ⟨p, hword⟩ := word_before hword s (place.after d)
      exact ⟨p, by rw [hword]; rfl⟩
    · obtain ⟨cur₁, hword, h⟩ := bind_eq_ok_iff.mp h
      cases h
      obtain ⟨p, hword⟩ := word_before hword s (place.after d)
      exact ⟨p, by rw [hword]; rfl⟩
    · obtain ⟨cur₁, hword, h⟩ := bind_eq_ok_iff.mp h
      cases h
      obtain ⟨p, hword⟩ := word_before hword s (place.after d)
      exact ⟨p, by rw [hword]; rfl⟩
    · obtain ⟨⟨n, cur₁⟩, hn, h⟩ := bind_eq_ok_iff.mp h
      cases h
      obtain ⟨p, hn⟩ := readNumeral_before hs _ _ _ hn place
      exact ⟨p, by rw [← List.cons_append, hn]; rfl⟩
    · obtain ⟨⟨t, cur₁⟩, ht, h⟩ := bind_eq_ok_iff.mp h
      cases h
      obtain ⟨p, ht⟩ := readString_before (s := s) _ _ _ ht (place.after d)
      exact ⟨p, by rw [ht]; rfl⟩

/-- What holds of the values inside containers holds of the value around them. -/
theorem readValue_before_of_inner (hs : EndsNumeral s) {depth : Nat}
    (hinner : ∀ inner, depth = inner + 1 → ReadsBefore s (readValue inner)) :
    ReadsBefore s (readValue depth) := by
  intro cur v next h place
  unfold readValue at h ⊢
  dsimp only at h
  split at h
  · cases h
  · next c tail hrest =>
    obtain ⟨p, hskip⟩ := skipBlank_before hrest s place
    have htail := Cursor.rest_advance hrest
    rw [hskip]
    dsimp only
    split_ifs at h ⊢
    · split at h
      · cases h
      · next inner =>
        obtain ⟨⟨xs, cur₁⟩, hxs, h⟩ := bind_eq_ok_iff.mp h
        cases h
        obtain ⟨q, hxs⟩ := readArray_before (hinner inner rfl) _ _ _ hxs (p.after c)
        rw [htail] at hxs
        exact ⟨q, by rw [Cursor.advance_cons, hxs]; rfl⟩
    · split at h
      · cases h
      · next inner =>
        obtain ⟨q, hv⟩ := readBraced_before (hinner inner rfl) _ _ _ h (p.after c)
        rw [htail] at hv
        exact ⟨q, by rw [Cursor.advance_cons, hv]⟩
    · have hread := readScalar_before hs (by simp [hrest]) h p
      rw [hrest] at hread
      exact hread

/-- A value that is read is read as well with any text behind it that does not go on a number. -/
theorem readValue_before (hs : EndsNumeral s) (depth : Nat) : ReadsBefore s (readValue depth) := by
  induction depth with
  | zero => exact readValue_before_of_inner hs nofun
  | succ depth ih =>
    refine readValue_before_of_inner hs fun inner hdepth => ?_
    obtain rfl : depth = inner := Nat.succ.inj hdepth
    exact ih

/-- The value that a text holds is read, up to blanks, in front of any text that does not go on a
number. -/
theorem reads_of_read {t : String} {v : Json} (h : Json.read t = .ok v) (hs : EndsNumeral s) :
    ∃ blanks, AllJsonBlank blanks ∧
      Reads (readValue nestingLimit) (t.toList ++ s) v (blanks ++ s) := by
  obtain ⟨next, hvalue, hblank⟩ := read_eq_ok_iff.mp h
  exact ⟨next.rest, hblank, readValue_before hs nestingLimit _ _ _ hvalue⟩

end Before
end Json
end RelayDesk
