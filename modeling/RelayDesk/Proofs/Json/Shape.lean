import RelayDesk.Proofs.Json.Spelt

/-!
Records read back from the text that is written for them.  A record that was written as an object,
each field once and every required one among them, is read back as soon as each of its fields is.
-/

namespace RelayDesk
namespace Json

section Fields

variable {α : Type}

/-- The field takes the value for `set`, a change of the record, whatever may follow the value. -/
def Field.Takes (f : Field α) (depth : Nat) (v : Json) (set : α → α) : Prop :=
  ∀ rest, EndsValue rest → ∀ place,
    ∃ next, f.read depth ⟨v.chars ++ rest, place⟩ = .ok (set, ⟨rest, next⟩)

theorem Field.takes_of {β : Type} {name : String} {required : Bool}
    {read : Nat → Cursor → Except Refusal (β × Cursor)} {set : β → α → α} {depth : Nat}
    {v : Json} {b : β}
    (h : ∀ rest, EndsValue rest → Reads (read depth) (v.chars ++ rest) b rest) :
    (Field.of name required read set).Takes depth v (set b) := by
  intro rest hrest place
  obtain ⟨next, hread⟩ := h rest hrest place
  refine ⟨next, ?_⟩
  show placedReading (read depth ⟨v.chars ++ rest, place⟩ >>= _) = _
  rw [hread, ok_bind]
  rfl

theorem Field.Takes.takesText {f : Field α} {depth : Nat} {v : Json} {set : α → α}
    (h : f.Takes depth v set) : f.TakesText depth v.chars set := by
  intro rest hrest place
  obtain ⟨next, hread⟩ := h rest hrest place
  exact ⟨[], next, nofun, hread⟩

namespace Shape

/-- Members that are fields, with the record that reading them in their order makes of another. -/
inductive Makes (s : Shape α) (depth : Nat) : List (String × Json) → α → α → Prop
  | nil {a : α} : Makes s depth [] a a
  | cons {f : Field α} {v : Json} {set : α → α} {ms : List (String × Json)} {a b : α}
      (field : s.fields.find? (·.name == f.name) = some f) (takes : f.Takes depth v set)
      (rest : Makes s depth ms (set a) b) : Makes s depth ((f.name, v) :: ms) a b

variable {s : Shape α} {depth : Nat}

/-- Members that are written compactly are members as they are spelt. -/
theorem Makes.exists_spelt {ms : List (String × Json)} {a b : α} (h : s.Makes depth ms a b) :
    ∃ spelt : List (SpeltMember α), (∀ m ∈ spelt, m.ReadsIn s depth) ∧
      spelt.map (·.chars) = ms.map (memberChars chars) ∧
      spelt.map (·.field.name) = Keyed.keys ms ∧ recordOf spelt a = b := by
  induction h with
  | nil => exact ⟨[], nofun, rfl, rfl, rfl⟩
  | @cons f v set ms a b field takes _ ih =>
    obtain ⟨spelt, hreads, hchars, hnames, hrecord⟩ := ih
    have hkey : Json.read (text (.str f.name)) = .ok (.str f.name) :=
      read_text (.str f.name) (by simp [keysWithin])
    let m : SpeltMember α :=
      { field := f, key := text (.str f.name), value := v.chars, set }
    have hm : m.ReadsIn s depth := ⟨field, hkey, takes.takesText⟩
    refine ⟨m :: spelt, List.forall_mem_cons.mpr ⟨hm, hreads⟩, ?_, ?_, hrecord⟩
    · have hname : (text (.str f.name)).toList = stringChars f.name := String.toList_ofList
      have hchar : m.chars = memberChars chars (f.name, v) := congrArg (· ++ ':' :: v.chars) hname
      rw [List.map_cons, List.map_cons, hchars, hchar]
    · rw [List.map_cons, hnames]
      rfl

/-- A record that was written field by field is read back from its text. -/
theorem readText_recordText {ms : List (String × Json)} {a : α}
    (h : s.Makes (nestingLimit - 1) ms s.blank a) (honce : (Keyed.keys ms).Nodup)
    (hall : ∀ f ∈ s.fields, f.required = true → f.name ∈ Keyed.keys ms) :
    s.readText (recordText ms) = .ok a := by
  obtain ⟨spelt, hreads, hchars, hnames, rfl⟩ := h.exists_spelt
  have htext : IsObjectText (spelt.map (·.chars)) (recordText ms) := by
    refine ⟨[], [], nofun, nofun, ?_⟩
    rw [recordText, text, String.toList_ofList, chars_obj, hchars]
    rfl
  rw [← hnames] at honce hall
  exact readText_of_spelt htext hreads honce hall

end Shape
end Fields

/-- A string asked for as text is read like any string. -/
theorem reads_text (expected s : String) (rest : List Char) :
    Reads (readText expected) (chars (.str s) ++ rest) s rest := by
  intro place
  obtain ⟨next, hstring⟩ := reads_string s rest (place.after '"')
  refine ⟨next, ?_⟩
  unfold readText
  rw [chars, stringChars_append, skipBlank_cons (by decide)]
  exact hstring

/-- A flag is read as it was written. -/
theorem reads_flag (b : Bool) (rest : List Char) :
    Reads readBool (chars (.bool b) ++ rest) b rest := by
  intro place
  cases b
  · exact ⟨_, rfl⟩
  · exact ⟨_, rfl⟩

end Json
end RelayDesk
