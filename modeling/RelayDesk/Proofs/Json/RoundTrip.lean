import RelayDesk.Proofs.Json.Parts

/-!
Reading what was written.  The compact text of a value is read back as that value, whatever stands
behind it, unless a member has the key that marks numbers: an object that begins with that key is
read as a number.
-/

namespace RelayDesk
namespace Json

theorem skipBlank_cons {c : Char} (hc : Cursor.isJsonBlank c = false) (rest : List Char)
    (place : Place) : Cursor.skipBlank ⟨c :: rest, place⟩ = ⟨c :: rest, place⟩ := by
  unfold Cursor.skipBlank Cursor.skipBlankFrom
  simp only [hc, Bool.false_eq_true, if_false]

/-! ## Items -/

theorem reads_nextItem_end (first : Bool) (rest : List Char) :
    Reads (nextItem first) (']' :: rest) false (']' :: rest) := by
  intro place
  exact ⟨place, rfl⟩

theorem reads_nextItem_first {text : List Char} (h : BeginsPart ']' text) (rest : List Char) :
    Reads (nextItem true) (text ++ rest) true (text ++ rest) := by
  intro place
  obtain ⟨c, cs, rfl, hblank, hbracket⟩ := h
  refine ⟨place, ?_⟩
  rw [List.cons_append]
  unfold nextItem
  rw [skipBlank_cons hblank]
  simp only [if_neg hbracket, if_true]

theorem reads_nextItem_comma {text : List Char} (h : BeginsPart ']' text) (rest : List Char) :
    Reads (nextItem false) (',' :: (text ++ rest)) true (text ++ rest) := by
  intro place
  obtain ⟨c, cs, rfl, hblank, hbracket⟩ := h
  refine ⟨place.after ',', ?_⟩
  rw [List.cons_append]
  unfold nextItem
  rw [skipBlank_cons (by decide)]
  simp only [Cursor.advance_cons, skipBlank_cons hblank, if_neg hbracket]
  rfl

section Containers

variable {α : Type} {item : Cursor → Except Refusal (α × Cursor)} {print : α → List Char}

theorem reads_array {xs : List α}
    (hitem : ∀ x ∈ xs, ∀ rest, EndsValue rest → Reads item (print x ++ rest) x rest)
    (hbegin : ∀ x ∈ xs, BeginsPart ']' (print x)) (rest : List Char) :
    Reads (readArray item) (commaSeparated (xs.map print) ++ ']' :: rest) xs rest := by
  intro place
  have hfuel := length_lt_of_parts (xs.map print) ']' rest
  rw [List.length_map] at hfuel
  obtain ⟨p₁, hitems⟩ := reads_parts .endOfList (.inl rfl) hfuel reads_nextItem_end
    (fun x hx => reads_nextItem_first (hbegin x hx))
    (fun x hx => reads_nextItem_comma (hbegin x hx)) hitem rest place
  refine ⟨p₁.after ']', ?_⟩
  unfold readArray
  rw [readItems_eq, hitems, ok_bind]
  rfl

/-! ## Members -/

theorem reads_colon (rest : List Char) (place : Place) :
    ∃ next, readColon ⟨':' :: rest, place⟩ = .ok ⟨rest, next⟩ := by
  exact ⟨_, rfl⟩

theorem reads_member {m : String × α} {rest : List Char}
    (hitem : Reads item (print m.2 ++ rest) m.2 rest) :
    Reads (readMember item) (memberChars print m ++ rest) m rest := by
  intro place
  rw [memberChars_append]
  obtain ⟨p₁, hkey⟩ := reads_string m.1 (':' :: (print m.2 ++ rest)) (place.after '"')
  obtain ⟨p₂, hcolon⟩ := reads_colon (print m.2 ++ rest) p₁
  obtain ⟨next, hvalue⟩ := hitem p₂
  refine ⟨next, ?_⟩
  unfold readMember
  rw [Cursor.advance_cons, hkey, ok_bind]
  simp only [hcolon, ok_bind, hvalue]
  rfl

theorem reads_nextKey_end (first : Bool) (rest : List Char) :
    Reads (nextKey first) ('\x7d' :: rest) false ('\x7d' :: rest) := by
  intro place
  exact ⟨place, rfl⟩

theorem reads_nextKey_first (print : α → List Char) (m : String × α) (rest : List Char) :
    Reads (nextKey true) (memberChars print m ++ rest) true (memberChars print m ++ rest) := by
  intro place
  rw [memberChars_append]
  exact ⟨place, rfl⟩

theorem reads_nextKey_comma (print : α → List Char) (m : String × α) (rest : List Char) :
    Reads (nextKey false) (',' :: (memberChars print m ++ rest)) true
      (memberChars print m ++ rest) := by
  intro place
  rw [memberChars_append]
  exact ⟨place.after ',', rfl⟩

theorem reads_object {ms : List (String × α)}
    (hitem : ∀ m ∈ ms, ∀ rest, EndsValue rest → Reads item (print m.2 ++ rest) m.2 rest)
    (rest : List Char) :
    Reads (readObject item) (commaSeparated (ms.map (memberChars print)) ++ '\x7d' :: rest) ms
      rest := by
  intro place
  have hfuel := length_lt_of_parts (ms.map (memberChars print)) '\x7d' rest
  rw [List.length_map] at hfuel
  obtain ⟨p₁, hmembers⟩ := reads_parts .endOfObject (.inr rfl) hfuel reads_nextKey_end
    (fun m _ => reads_nextKey_first print m) (fun m _ => reads_nextKey_comma print m)
    (fun m hm rest hrest => reads_member (hitem m hm rest hrest)) rest place
  refine ⟨p₁.after '\x7d', ?_⟩
  unfold readObject
  rw [readMembers_eq, hmembers, ok_bind]
  rfl

/-- An object whose first key is an ordinary one marks no number. -/
theorem numberMark?_eq_none {ms : List (String × α)} (hkeys : ∀ m ∈ ms, m.1 ≠ numberKey)
    (rest : List Char) (place : Place) :
    numberMark? ⟨commaSeparated (ms.map (memberChars print)) ++ '\x7d' :: rest, place⟩ = none := by
  cases ms with
  | nil => rfl
  | cons m ms =>
    rw [List.map_cons, commaSeparated_cons, List.append_assoc]
    obtain ⟨p₁, hnext⟩ := reads_nextKey_first print m
      ((ms.map (memberChars print)).flatMap (',' :: ·) ++ '\x7d' :: rest) place
    unfold numberMark?
    rw [hnext, memberChars_append]
    obtain ⟨p₂, hkey⟩ := reads_string m.1
      (':' :: (print m.2 ++ ((ms.map (memberChars print)).flatMap (',' :: ·) ++ '\x7d' :: rest)))
      (p₁.after '"')
    simp only [Cursor.advance_cons, hkey]
    exact if_neg (hkeys m List.mem_cons_self)

end Containers

/-! ## Values -/

theorem readValue_scalar {depth : Nat} {c : Char} (hblank : Cursor.isJsonBlank c = false)
    (hbracket : c ≠ '[') (hbrace : c ≠ '\x7b') (rest : List Char) (place : Place) :
    readValue depth ⟨c :: rest, place⟩ = readScalar c ⟨c :: rest, place⟩ := by
  unfold readValue
  rw [skipBlank_cons hblank]
  simp only [if_neg hbracket, if_neg hbrace]

theorem readValue_bracket (depth : Nat) (rest : List Char) (place : Place) :
    readValue (depth + 1) ⟨'[' :: rest, place⟩ =
      (readArray (readValue depth) ⟨rest, place.after '['⟩ >>= fun p =>
        .ok (.arr p.1, p.2)) := by
  rw [readValue, skipBlank_cons (by decide)]
  rfl

theorem readValue_brace (depth : Nat) (rest : List Char) (place : Place) :
    readValue (depth + 1) ⟨'\x7b' :: rest, place⟩ =
      readBraced (readValue depth) ⟨rest, place.after '\x7b'⟩ := by
  rw [readValue, skipBlank_cons (by decide)]
  rfl

theorem reads_null (depth : Nat) (rest : List Char) :
    Reads (readValue depth) (chars .null ++ rest) .null rest := by
  intro place
  rw [chars, List.cons_append, readValue_scalar (by decide) (by decide) (by decide)]
  exact ⟨_, rfl⟩

theorem reads_bool (depth : Nat) (b : Bool) (rest : List Char) :
    Reads (readValue depth) (chars (.bool b) ++ rest) (.bool b) rest := by
  intro place
  cases b
  · rw [chars, List.cons_append, readValue_scalar (by decide) (by decide) (by decide)]
    exact ⟨_, rfl⟩
  · rw [chars, List.cons_append, readValue_scalar (by decide) (by decide) (by decide)]
    exact ⟨_, rfl⟩

theorem reads_str (depth : Nat) (s : String) (rest : List Char) :
    Reads (readValue depth) (chars (.str s) ++ rest) (.str s) rest := by
  intro place
  obtain ⟨next, hstring⟩ := reads_string s rest (place.after '"')
  refine ⟨next, ?_⟩
  rw [chars, stringChars_append, readValue_scalar (by decide) (by decide) (by decide)]
  show (readString ⟨_, place.after '"'⟩ >>= fun p => Except.ok (Json.str p.1, p.2)) = _
  rw [hstring, ok_bind]

theorem reads_num (depth : Nat) {n : Numeral} (wf : n.WellFormed) {rest : List Char}
    (hrest : EndsNumeral rest) :
    Reads (readValue depth) (chars (.num n.text) ++ rest) (.num n.text) rest := by
  intro place
  obtain ⟨c, cs, hcons, htype⟩ := chars_eq_cons (@Readable.num depth n wf)
  obtain ⟨next, hread⟩ := reads_numeral wf hrest place
  refine ⟨next, ?_⟩
  rw [chars_num] at hcons ⊢
  rw [hcons, List.cons_append] at hread ⊢
  have hne : ∀ d, leadType? d ≠ some "number" → c ≠ d := by
    rintro d hd rfl
    exact hd htype
  rw [readValue_scalar (not_blank_of_leadType? htype).1 (hne _ (by decide)) (hne _ (by decide))]
  unfold readScalar
  rw [if_neg (hne _ (by decide)), if_neg (hne _ (by decide)), if_neg (hne _ (by decide)),
    if_pos (leadType?_number htype), hread, ok_bind]
  rfl

/-- The text of a value is read back as the value, with any rest behind it. -/
theorem reads_value {depth : Nat} {v : Json} (h : Readable depth v)
    (hkeys : numberKey ∉ v.keysWithin) {rest : List Char} (hrest : EndsValue rest) :
    Reads (readValue depth) (v.chars ++ rest) v rest := by
  -- What stands behind a value changes from part to part, so the rest is generalized.
  induction h generalizing rest with
  | null => exact reads_null _ rest
  | bool b => exact reads_bool _ b rest
  | num wf => exact reads_num _ wf hrest.endsNumeral
  | str s => exact reads_str _ s rest
  | @arr depth items inner ih =>
    intro place
    have hitem : ∀ v ∈ items, ∀ rest, EndsValue rest →
        Reads (readValue depth) (v.chars ++ rest) v rest := by
      intro v hv rest hrest
      refine ih v hv ?_ hrest
      exact fun hkey => hkeys (mem_keysWithin_arr.mpr ⟨v, hv, hkey⟩)
    obtain ⟨next, harray⟩ := reads_array hitem (fun v hv => beginsPart_chars (.inl rfl) (inner v hv)) rest
      (place.after '[')
    refine ⟨next, ?_⟩
    rw [chars_arr, List.cons_append, List.append_assoc, List.singleton_append,
      readValue_bracket, harray, ok_bind]
  | @obj depth members sorted inner ih =>
    intro place
    have hitem : ∀ m ∈ members, ∀ rest, EndsValue rest →
        Reads (readValue depth) (m.2.chars ++ rest) m.2 rest := by
      intro m hm rest hrest
      refine ih m hm ?_ hrest
      exact fun hkey => hkeys (mem_keysWithin_obj.mpr ⟨m, hm, .inr hkey⟩)
    -- The key that marks numbers is looked for in front, before any member is read.
    have hordinary : ∀ m ∈ members, m.1 ≠ numberKey := fun m hm hkey =>
      hkeys (mem_keysWithin_obj.mpr ⟨m, hm, .inl hkey.symm⟩)
    obtain ⟨next, hobject⟩ := reads_object hitem rest (place.after '\x7b')
    refine ⟨next, ?_⟩
    rw [chars_obj, List.cons_append, List.append_assoc, List.singleton_append, readValue_brace]
    unfold readBraced
    rw [numberMark?_eq_none hordinary]
    simp only [hobject, ok_bind, object, Keyed.ofList_of_sorted sorted]
    rfl

/-- A value that text can hold is what its own text holds. -/
theorem read_text {v : Json} (h : Readable nestingLimit v) (hkeys : numberKey ∉ v.keysWithin) :
    Json.read v.text = .ok v := by
  obtain ⟨next, hvalue⟩ := reads_value h hkeys endsValue_nil ⟨1, 0⟩
  have hstart : Cursor.start v.text = ⟨v.chars ++ [], ⟨1, 0⟩⟩ := by
    rw [Cursor.start, text, String.toList_ofList, List.append_nil]
  unfold Json.read
  rw [hstart, hvalue, ok_bind]
  rfl

end Json
end RelayDesk
