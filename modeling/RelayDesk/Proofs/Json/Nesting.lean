import RelayDesk.Proofs.Json.Before
import RelayDesk.Proofs.Json.Taken
import RelayDesk.Proofs.Json.Zones

/-!
How deep a text is nested.  The brackets and braces outside strings tell it, whatever they enclose.
A reader is given the depth that it may still go down to, and a text that is not nested deeper is
read alike by all readers that can read it at all.
-/

namespace RelayDesk
namespace Json

/-- Are brackets and braces outside strings nested at most `n` deep, where the text begins in a
zone? -/
def nestsWithin (n : Nat) (z : Zone) : List Char → Bool
  | [] => true
  | c :: rest =>
    match z with
    | .outside =>
      if c = '"' then nestsWithin n .inside rest
      else if c = '[' ∨ c = '\x7b' then
        match n with
        | 0 => false
        | n + 1 => nestsWithin n .outside rest
      else if c = ']' ∨ c = '\x7d' then nestsWithin (n + 1) .outside rest
      else nestsWithin n .outside rest
    | .inside =>
      if c = '"' then nestsWithin n .outside rest
      else if c = '\\' then nestsWithin n .escaped rest
      else nestsWithin n .inside rest
    | .escaped => nestsWithin n .inside rest

/-! ## Single characters -/

/-- Outside strings such a character begins none and is no bracket or brace. -/
def IsPlain (c : Char) : Prop := c ∉ ['"', '[', ']', '\x7b', '\x7d']

instance (c : Char) : Decidable (IsPlain c) := inferInstanceAs (Decidable (c ∉ _))

section Characters

variable {n : Nat} {c : Char} {rest : List Char}

theorem nestsWithin_plain (hc : IsPlain c) :
    nestsWithin n .outside (c :: rest) = nestsWithin n .outside rest := by
  simp only [IsPlain, List.mem_cons, List.not_mem_nil, or_false, not_or] at hc
  simp [nestsWithin, hc]

theorem nestsWithin_plain_append {taken : List Char} (h : ∀ c ∈ taken, IsPlain c)
    (rest : List Char) :
    nestsWithin n .outside (taken ++ rest) = nestsWithin n .outside rest := by
  induction taken with
  | nil => rfl
  | cons c taken ih =>
    obtain ⟨hc, hlater⟩ := List.forall_mem_cons.mp h
    rw [List.cons_append, nestsWithin_plain hc, ih hlater]

theorem nestsWithin_quote (n : Nat) (rest : List Char) :
    nestsWithin n .outside ('"' :: rest) = nestsWithin n .inside rest := by
  simp [nestsWithin]

theorem nestsWithin_opening (hc : c = '[' ∨ c = '\x7b')
    (h : nestsWithin n .outside (c :: rest) = true) :
    ∃ m, n = m + 1 ∧ nestsWithin m .outside rest = true := by
  cases n with
  | zero => rcases hc with rfl | rfl <;> cases h
  | succ m =>
    refine ⟨m, rfl, ?_⟩
    rcases hc with rfl | rfl <;> exact h

theorem nestsWithin_closing (hc : c = ']' ∨ c = '\x7d') :
    nestsWithin n .outside (c :: rest) = nestsWithin (n + 1) .outside rest := by
  rcases hc with rfl | rfl <;> simp [nestsWithin]

theorem nestsWithin_string (hquote : c ≠ '"') (hback : c ≠ '\\') :
    nestsWithin n .inside (c :: rest) = nestsWithin n .inside rest := by
  simp [nestsWithin, hquote, hback]

theorem nestsWithin_escape (n : Nat) (c : Char) (rest : List Char) :
    nestsWithin n .inside ('\\' :: c :: rest) = nestsWithin n .inside rest := by
  simp [nestsWithin]

theorem isPlain_of_isJsonBlank (h : Cursor.isJsonBlank c = true) : IsPlain c := by
  intro hc
  simp only [List.mem_cons, List.not_mem_nil, or_false] at hc
  rcases hc with rfl | rfl | rfl | rfl | rfl <;> cases h

theorem isPlain_of_isNumeralChar (h : IsNumeralChar c) : IsPlain c := by
  intro hc
  simp only [List.mem_cons, List.not_mem_nil, or_false] at hc
  rcases hc with rfl | rfl | rfl | rfl | rfl <;> (revert h; unfold IsNumeralChar; decide)

end Characters

/-! ## Leaves -/

section Leaves

variable {n : Nat} {cur next : Cursor}

theorem nestsWithin_skipBlank (n : Nat) (cur : Cursor) :
    nestsWithin n .outside cur.skipBlank.rest = nestsWithin n .outside cur.rest := by
  obtain ⟨before, hbefore, hrest, -⟩ := exists_skipped cur
  rw [hrest, nestsWithin_plain_append fun c hc => isPlain_of_isJsonBlank (hbefore c hc)]

/-- Hexadecimal digits do not leave the string that they stand in. -/
theorem nestsWithin_hexEscape {k : Nat} (h : hexEscape cur = .ok (k, next)) (n : Nat) :
    nestsWithin n .inside cur.rest = nestsWithin n .inside next.rest := by
  obtain ⟨text, start⟩ := cur
  unfold hexEscape at h
  split at h
  · next a b c d tail htext =>
    obtain rfl : text = a :: b :: c :: d :: tail := htext
    split_ifs at h with hhex
    cases h
    have hdigit : ∀ x ∈ [a, b, c, d], x ≠ '"' ∧ x ≠ '\\' := by
      intro x hx
      have hx' := List.all_eq_true.mp hhex x hx
      constructor <;> (rintro rfl; cases hx')
    simp only [List.forall_mem_cons] at hdigit
    obtain ⟨ha, hb, hc, hd, -⟩ := hdigit
    rw [nestsWithin_string ha.1 ha.2, nestsWithin_string hb.1 hb.2, nestsWithin_string hc.1 hc.2,
      nestsWithin_string hd.1 hd.2]
    rfl
  · cases h

theorem nestsWithin_surrogateStep {high : Nat} {c : Char}
    (h : surrogateStep high cur = .char c next) (n : Nat) :
    nestsWithin n .inside cur.rest = nestsWithin n .inside next.rest := by
  obtain ⟨tail, start, rfl⟩ := exists_escape_of_surrogateStep h
  rw [surrogateStep_escape] at h
  split at h
  · cases h
  · next low behind hlow =>
    split_ifs at h
    obtain ⟨-, rfl⟩ := StringStep.char.inj h
    rw [nestsWithin_escape]
    exact nestsWithin_hexEscape hlow n

theorem nestsWithin_unicodeStep {c : Char} (h : unicodeStep cur = .char c next) (n : Nat) :
    nestsWithin n .inside cur.rest = nestsWithin n .inside next.rest := by
  unfold unicodeStep at h
  split at h
  · cases h
  · next k behind hk =>
    rw [nestsWithin_hexEscape hk]
    split_ifs at h
    · exact nestsWithin_surrogateStep h n
    · cases h
      rfl

theorem nestsWithin_stringStep {c : Char} (h : stringStep cur = .char c next) (n : Nat) :
    nestsWithin n .inside cur.rest = nestsWithin n .inside next.rest := by
  obtain ⟨text, start⟩ := cur
  cases text with
  | nil => cases h
  | cons d tail =>
    unfold stringStep at h
    dsimp only at h
    split_ifs at h with hquote hback hcontrol
    · subst hback
      rw [Cursor.advance_cons] at h
      unfold escapeStep at h
      cases tail with
      | nil => cases h
      | cons e tail =>
        rw [nestsWithin_escape]
        dsimp only at h
        split_ifs at h
        · exact nestsWithin_unicodeStep h n
        · split at h
          · cases h
            rfl
          · cases h
    · cases h
      exact nestsWithin_string hquote hback

theorem nestsWithin_stringSteps {fuel : Nat} {cs : List Char}
    (h : stringSteps fuel cur = .ok (cs, next)) (n : Nat) :
    nestsWithin n .inside cur.rest = nestsWithin n .outside next.rest := by
  induction fuel generalizing cur cs with
  | zero => cases h
  | succ fuel ih =>
    unfold stringSteps at h
    split at h
    · cases h
    · next last hstep =>
      cases h
      rw [rest_of_finish hstep]
      simp [nestsWithin]
    · next c middle hstep =>
      obtain ⟨⟨more, last⟩, hmore, h⟩ := bind_eq_ok_iff.mp h
      cases h
      rw [nestsWithin_stringStep hstep, ih hmore]

theorem nestsWithin_readString {s : String} (h : readString cur = .ok (s, next)) (n : Nat) :
    nestsWithin n .inside cur.rest = nestsWithin n .outside next.rest := by
  obtain ⟨⟨cs, last⟩, hsteps, h⟩ := bind_eq_ok_iff.mp h
  cases h
  exact nestsWithin_stringSteps hsteps n

theorem nestsWithin_word {expected : List Char} (hexpected : ∀ c ∈ expected, IsPlain c)
    (h : cur.word expected = .ok next) (n : Nat) :
    nestsWithin n .outside cur.rest = nestsWithin n .outside next.rest := by
  rw [rest_of_word h, nestsWithin_plain_append hexpected]

theorem nestsWithin_readNumeral {k : Numeral} (h : readNumeral cur = .ok (k, next)) (n : Nat) :
    nestsWithin n .outside cur.rest = nestsWithin n .outside next.rest := by
  obtain ⟨taken, hrest, hnumeral⟩ := exists_taken_of_readNumeral h
  rw [hrest, nestsWithin_plain_append fun c hc => isPlain_of_isNumeralChar (hnumeral c hc)]

theorem nestsWithin_readScalar {c : Char} {tail : List Char} {v : Json}
    (hrest : cur.rest = c :: tail) (h : readScalar c cur = .ok (v, next)) (n : Nat) :
    nestsWithin n .outside cur.rest = nestsWithin n .outside next.rest := by
  have hadvance := Cursor.rest_advance hrest
  unfold readScalar at h
  split_ifs at h with hnull htrue hfalse hnumeral hquote
  · obtain ⟨cur₁, hword, h⟩ := bind_eq_ok_iff.mp h
    cases h
    rw [hrest, hnull, nestsWithin_plain (by decide), ← hadvance,
      nestsWithin_word (by simp [IsPlain]) hword]
  · obtain ⟨cur₁, hword, h⟩ := bind_eq_ok_iff.mp h
    cases h
    rw [hrest, htrue, nestsWithin_plain (by decide), ← hadvance,
      nestsWithin_word (by simp [IsPlain]) hword]
  · obtain ⟨cur₁, hword, h⟩ := bind_eq_ok_iff.mp h
    cases h
    rw [hrest, hfalse, nestsWithin_plain (by decide), ← hadvance,
      nestsWithin_word (by simp [IsPlain]) hword]
  · obtain ⟨⟨k, cur₁⟩, hk, h⟩ := bind_eq_ok_iff.mp h
    cases h
    exact nestsWithin_readNumeral hk n
  · obtain ⟨⟨s, cur₁⟩, hs, h⟩ := bind_eq_ok_iff.mp h
    cases h
    rw [hrest, hquote, nestsWithin_quote, ← hadvance, nestsWithin_readString hs]

end Leaves

/-! ## Containers -/

section Containers

variable {cur next : Cursor}

theorem nestsWithin_nextItem {first more : Bool} (h : nextItem first cur = .ok (more, next))
    (n : Nat) : nestsWithin n .outside cur.rest = nestsWithin n .outside next.rest := by
  rw [← nestsWithin_skipBlank]
  unfold nextItem at h
  dsimp only at h
  split at h
  · cases h
  · next c tail hrest =>
    split_ifs at h with hend hfirst hcomma
    · cases h
      rfl
    · cases h
      rfl
    · split at h
      · cases h
      · split_ifs at h
        cases h
        rw [nestsWithin_skipBlank n cur.skipBlank.advance, Cursor.rest_advance hrest, hrest, hcomma,
          nestsWithin_plain (by decide)]

theorem nestsWithin_nextKey {first more : Bool} (h : nextKey first cur = .ok (more, next))
    (n : Nat) : nestsWithin n .outside cur.rest = nestsWithin n .outside next.rest := by
  rw [← nestsWithin_skipBlank]
  unfold nextKey at h
  dsimp only at h
  split at h
  · cases h
  · next c tail hrest =>
    split_ifs at h with hend hfirst hquote hcomma
    · cases h
      rfl
    · cases h
      rfl
    · split at h
      · cases h
      · split_ifs at h
        cases h
        rw [nestsWithin_skipBlank n cur.skipBlank.advance, Cursor.rest_advance hrest, hrest, hcomma,
          nestsWithin_plain (by decide)]

theorem nestsWithin_readColon (h : readColon cur = .ok next) (n : Nat) :
    nestsWithin n .outside cur.rest = nestsWithin n .outside next.rest := by
  rw [← nestsWithin_skipBlank]
  unfold readColon at h
  dsimp only at h
  split at h
  · cases h
  · next c tail hrest =>
    split_ifs at h with hcolon
    cases h
    rw [hrest, hcolon, nestsWithin_plain (by decide), Cursor.rest_advance hrest]

theorem nestsWithin_closeArray (h : (closeArray cur).1 = .ok ()) (n : Nat) :
    nestsWithin n .outside cur.rest = nestsWithin (n + 1) .outside (closeArray cur).2.rest := by
  rw [← nestsWithin_skipBlank]
  unfold closeArray at h ⊢
  dsimp only at h ⊢
  split at h
  · cases h
  · next c tail hrest =>
    split_ifs at h with hend
    rw [hrest, hend, nestsWithin_closing (.inl rfl)]
    simp [Cursor.rest_advance hrest]

theorem nestsWithin_closeObject (h : (closeObject cur).1 = .ok ()) (n : Nat) :
    nestsWithin n .outside cur.rest = nestsWithin (n + 1) .outside (closeObject cur).2.rest := by
  rw [← nestsWithin_skipBlank]
  unfold closeObject at h ⊢
  dsimp only at h ⊢
  split at h
  · cases h
  · next c tail hrest =>
    split_ifs at h with hend
    rw [hrest, hend, nestsWithin_closing (.inr rfl)]
    simp [Cursor.rest_advance hrest]

/-- A key is a string, and leaves the string behind it. -/
theorem nestsWithin_readKey {first : Bool} {start : Cursor} {key : String}
    (hstart : nextKey first cur = .ok (true, start))
    (hkey : readString start.advance = .ok (key, next)) (n : Nat) :
    nestsWithin n .outside start.rest = nestsWithin n .outside next.rest := by
  obtain ⟨tail, htail⟩ := rest_of_nextKey hstart
  rw [htail, nestsWithin_quote, ← Cursor.rest_advance htail, nestsWithin_readString hkey]

theorem nestsWithin_numberMark? (h : numberMark? cur = some next) (n : Nat) :
    nestsWithin n .outside cur.rest = nestsWithin n .outside next.rest := by
  obtain ⟨start, hstart, hkey⟩ := numberMark?_eq_some_iff.mp h
  rw [nestsWithin_nextKey hstart, nestsWithin_readKey hstart hkey]

theorem nestsWithin_readTaggedNumber {v : Json} (h : readTaggedNumber cur = .ok (v, next))
    (n : Nat) : nestsWithin n .outside cur.rest = nestsWithin n .outside next.rest := by
  rw [← nestsWithin_skipBlank]
  unfold readTaggedNumber at h
  dsimp only at h
  split at h
  · cases h
  · next c tail hrest =>
    split_ifs at h with hquote
    obtain ⟨⟨s, cur₁⟩, hs, h⟩ := bind_eq_ok_iff.mp h
    obtain ⟨k, -, h⟩ := bind_eq_ok_iff.mp h
    cases h
    rw [hrest, hquote, nestsWithin_quote, ← Cursor.rest_advance hrest, nestsWithin_readString hs]

variable {α : Type} {n : Nat} {item item' : Cursor → Except Refusal (α × Cursor)}

/-- What `read` gives of a text that is nested at most `n` deep, `read'` gives as well, and the rest
of the text is nested at most `m` deep. -/
def ReadsAlike (n m : Nat) (read read' : Cursor → Except Refusal (α × Cursor)) : Prop :=
  ∀ cur x next, read cur = .ok (x, next) → nestsWithin n .outside cur.rest = true →
    read' cur = .ok (x, next) ∧ nestsWithin m .outside next.rest = true

theorem readParts_alike {fault : Fault} {next : Bool → Cursor → Except Refusal (Bool × Cursor)}
    (hnext : ∀ first cur more after, next first cur = .ok (more, after) →
      nestsWithin n .outside cur.rest = nestsWithin n .outside after.rest)
    (hitem : ∀ first cur start x after, next first cur = .ok (true, start) →
      item start = .ok (x, after) → nestsWithin n .outside start.rest = true →
      item' start = .ok (x, after) ∧ nestsWithin n .outside after.rest = true)
    (fuel : Nat) (first : Bool) :
    ReadsAlike n n (readParts fault next item fuel first)
      (readParts fault next item' fuel first) := by
  induction fuel generalizing first with
  | zero =>
    intro cur xs last h
    cases h
  | succ fuel ih =>
    intro cur xs last h hn
    rw [readParts] at h ⊢
    obtain ⟨⟨more, cur₁⟩, hmore, h⟩ := bind_eq_ok_iff.mp h
    rw [hnext _ _ _ _ hmore] at hn
    rw [hmore, ok_bind]
    cases more with
    | false =>
      cases h
      exact ⟨rfl, hn⟩
    | true =>
      obtain ⟨⟨x, cur₂⟩, hx, h⟩ := bind_eq_ok_iff.mp h
      obtain ⟨⟨rest, cur₃⟩, hrest, h⟩ := bind_eq_ok_iff.mp h
      cases h
      obtain ⟨hx, hn⟩ := hitem _ _ _ _ _ hmore hx hn
      obtain ⟨hrest, hn⟩ := ih false _ _ _ hrest hn
      refine ⟨?_, hn⟩
      simp only [if_true, hx, ok_bind, hrest]
      rfl

theorem readArray_alike (hitem : ReadsAlike n n item item') :
    ReadsAlike n (n + 1) (readArray item) (readArray item') := by
  intro cur xs next h hn
  obtain ⟨⟨ys, cur₁⟩, hitems, h⟩ := bind_eq_ok_iff.mp h
  have hclose := h
  obtain ⟨⟨⟩, hclosed, h⟩ := bind_eq_ok_iff.mp h
  cases h
  rw [readItems_eq] at hitems
  obtain ⟨hitems, hn⟩ := readParts_alike (fun _ _ _ _ h => nestsWithin_nextItem h n)
    (fun _ _ _ _ _ _ h hn => hitem _ _ _ h hn) _ _ _ _ _ hitems hn
  rw [nestsWithin_closeArray hclosed] at hn
  refine ⟨?_, hn⟩
  unfold readArray
  rw [readItems_eq]
  exact bind_eq_ok_iff.mpr ⟨_, hitems, hclose⟩

theorem readObject_alike (hitem : ReadsAlike n n item item') :
    ReadsAlike n (n + 1) (readObject item) (readObject item') := by
  intro cur ms next h hn
  obtain ⟨⟨ns, cur₁⟩, hmembers, h⟩ := bind_eq_ok_iff.mp h
  have hclose := h
  obtain ⟨⟨⟩, hclosed, h⟩ := bind_eq_ok_iff.mp h
  cases h
  rw [readMembers_eq] at hmembers
  have hmember : ∀ first cur start m after, nextKey first cur = .ok (true, start) →
      readMember item start = .ok (m, after) → nestsWithin n .outside start.rest = true →
      readMember item' start = .ok (m, after) ∧ nestsWithin n .outside after.rest = true := by
    intro first cur start m after hstart h hn
    obtain ⟨⟨key, cur₂⟩, hkey, h⟩ := bind_eq_ok_iff.mp h
    obtain ⟨cur₃, hcolon, h⟩ := bind_eq_ok_iff.mp h
    obtain ⟨⟨x, cur₄⟩, hx, h⟩ := bind_eq_ok_iff.mp h
    cases h
    rw [nestsWithin_readKey hstart hkey, nestsWithin_readColon hcolon] at hn
    obtain ⟨hx, hn⟩ := hitem _ _ _ hx hn
    refine ⟨?_, hn⟩
    unfold readMember
    simp only [hkey, ok_bind, hcolon, hx]
    rfl
  obtain ⟨hmembers, hn⟩ := readParts_alike (fun _ _ _ _ h => nestsWithin_nextKey h n) hmember
    _ _ _ _ _ hmembers hn
  rw [nestsWithin_closeObject hclosed] at hn
  refine ⟨?_, hn⟩
  unfold readObject
  rw [readMembers_eq]
  exact bind_eq_ok_iff.mpr ⟨_, hmembers, hclose⟩

end Containers

theorem readBraced_alike {n : Nat} {item item' : Cursor → Except Refusal (Json × Cursor)}
    (hitem : ReadsAlike n n item item') :
    ReadsAlike n (n + 1) (readBraced item) (readBraced item') := by
  intro cur v next h hn
  unfold readBraced at h ⊢
  split at h
  · next behind hmark =>
    have hsame := h
    obtain ⟨cur₁, hcolon, h⟩ := bind_eq_ok_iff.mp h
    obtain ⟨⟨w, cur₂⟩, hw, h⟩ := bind_eq_ok_iff.mp h
    obtain ⟨⟨⟩, hclosed, h⟩ := bind_eq_ok_iff.mp h
    cases h
    rw [nestsWithin_numberMark? hmark, nestsWithin_readColon hcolon,
      nestsWithin_readTaggedNumber hw, nestsWithin_closeObject hclosed] at hn
    exact ⟨hsame, hn⟩
  · next hmark =>
    obtain ⟨⟨ms, cur₁⟩, hms, h⟩ := bind_eq_ok_iff.mp h
    cases h
    obtain ⟨hms, hn⟩ := readObject_alike hitem _ _ _ hms hn
    refine ⟨?_, hn⟩
    simp only [hms, ok_bind]
    rfl

/-! ## Values -/

theorem readValue_alike_of_inner {depth n : Nat}
    (hinner : ∀ inner m, depth = inner + 1 → n = m + 1 →
      ReadsAlike m m (readValue inner) (readValue m)) :
    ReadsAlike n n (readValue depth) (readValue n) := by
  intro cur v next h hn
  obtain ⟨-, -, -, hhead⟩ := exists_skipped cur
  rw [← readValue_skipBlank] at h ⊢
  rw [← nestsWithin_skipBlank] at hn
  generalize cur.skipBlank = cur' at h hn hhead ⊢
  obtain ⟨text, start⟩ := cur'
  cases text with
  | nil =>
    unfold readValue at h
    cases h
  | cons c tail =>
    by_cases hbracket : c = '['
    · subst hbracket
      obtain ⟨m, rfl, hn⟩ := nestsWithin_opening (.inl rfl) hn
      cases depth with
      | zero =>
        rw [readValue, skipBlank_cons (by decide)] at h
        cases h
      | succ inner =>
        rw [readValue_bracket] at h ⊢
        obtain ⟨⟨xs, cur₁⟩, hxs, h⟩ := bind_eq_ok_iff.mp h
        cases h
        obtain ⟨hxs, hn⟩ := readArray_alike (hinner inner m rfl rfl) _ _ _ hxs hn
        exact ⟨bind_eq_ok_iff.mpr ⟨_, hxs, rfl⟩, hn⟩
    · by_cases hbrace : c = '\x7b'
      · subst hbrace
        obtain ⟨m, rfl, hn⟩ := nestsWithin_opening (.inr rfl) hn
        cases depth with
        | zero =>
          rw [readValue, skipBlank_cons (by decide)] at h
          cases h
        | succ inner =>
          rw [readValue_brace] at h ⊢
          exact readBraced_alike (hinner inner m rfl rfl) _ _ _ h hn
      · rw [readValue_scalar (hhead c rfl) hbracket hbrace] at h ⊢
        rw [nestsWithin_readScalar rfl h] at hn
        exact ⟨h, hn⟩

/-- A text that is nested at most `n` deep is read alike where containers may be nested `n` deep,
however deep they may be nested elsewhere. -/
theorem readValue_alike (depth n : Nat) : ReadsAlike n n (readValue depth) (readValue n) := by
  -- Each bracket takes one off both depths, so the depth of the other reader is generalized.
  induction depth generalizing n with
  | zero => exact readValue_alike_of_inner nofun
  | succ depth ih =>
    refine readValue_alike_of_inner fun inner m hdepth _ => ?_
    obtain rfl : depth = inner := Nat.succ.inj hdepth
    exact ih m

/-- A text that holds a value, and is nested less deep than it might be, can stand in a
container. -/
theorem reads_inner_of_read {t : String} {v : Json} {n : Nat} (h : Json.read t = .ok v)
    (hn : nestsWithin n .outside t.toList = true) {s : List Char} (hs : EndsNumeral s) :
    ∃ blanks, AllJsonBlank blanks ∧ Reads (readValue n) (t.toList ++ s) v (blanks ++ s) := by
  obtain ⟨next, hvalue, hblank⟩ := read_eq_ok_iff.mp h
  obtain ⟨hvalue, -⟩ := readValue_alike nestingLimit n _ _ _ hvalue hn
  exact ⟨next.rest, hblank, readValue_before hs n _ _ _ hvalue⟩

end Json
end RelayDesk
