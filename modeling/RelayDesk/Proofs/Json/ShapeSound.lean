import RelayDesk.Proofs.Json.Shape
import RelayDesk.Proofs.Json.Sound

/-!
What reading a record gives, as an object or as an array.  A property of the record in which no
field has been read holds of the record that a text holds, as soon as no field that is read takes
it away.  With it a record that was read is known to be one that is read back from its own text.
-/

namespace RelayDesk
namespace Json

section Fields

variable {α : Type}

/-- No value that is read for the field takes the property from a record. -/
def Field.Keeps (f : Field α) (depth : Nat) (P : α → Prop) : Prop :=
  ∀ cur set next, f.read depth cur = .ok (set, next) → ∀ a, P a → P (set a)

theorem Field.keeps_of {β : Type} {name : String} {required : Bool}
    {read : Nat → Cursor → Except Refusal (β × Cursor)} {set : β → α → α} {depth : Nat}
    {P : α → Prop} {Q : β → Prop} (hread : Gives (read depth) Q)
    (hset : ∀ b a, Q b → P a → P (set b a)) : (Field.of name required read set).Keeps depth P := by
  intro cur change next h a ha
  obtain ⟨⟨b, after⟩, hb, h⟩ := bind_eq_ok_iff.mp (mapError_eq_ok_iff.mp h)
  cases h
  exact hset b a (hread _ _ _ hb) ha

/-- A property that does not look at a field is kept whatever is read for it. -/
theorem Field.keeps_of_untouched {β : Type} {name : String} {required : Bool}
    {read : Nat → Cursor → Except Refusal (β × Cursor)} {set : β → α → α} {depth : Nat}
    {P : α → Prop} (hset : ∀ b a, P a → P (set b a)) :
    (Field.of name required read set).Keeps depth P := by
  have hany : Gives (read depth) fun _ => True := fun _ _ _ _ => trivial
  exact Field.keeps_of hany fun b a _ ha => hset b a ha

theorem closeBody_eq_ok {close : Cursor → Except Refusal Unit × Cursor}
    {body : Except Objection (α × Cursor)} {a : α} {cur : Cursor}
    (h : closeBody close body = .ok (a, cur)) : ∃ inner, body = .ok (a, inner) := by
  cases body with
  | error objection => cases objection <;> cases h
  | ok p =>
    obtain ⟨-, -, h⟩ := bind_eq_ok_iff.mp h
    cases h
    exact ⟨p.2, rfl⟩

namespace Shape

variable {s : Shape α} {depth : Nat} {P : α → Prop}

theorem holds_of_readElements {fields : List (Field α)} (hkeeps : ∀ f ∈ fields, f.Keeps depth P)
    {index : Nat} {a b : α} {cur next : Cursor} (ha : P a)
    (h : s.readElements depth fields index a cur = .ok (b, next)) : P b := by
  -- A field that is left out does nothing, so the record of the moment has the property throughout.
  induction fields generalizing index a cur with
  | nil =>
    cases h
    exact ha
  | cons f rest ih =>
    have hrest : ∀ g ∈ rest, g.Keeps depth P := fun g hg => hkeeps g (List.mem_cons_of_mem f hg)
    rw [readElements] at h
    obtain ⟨⟨more, cur₁⟩, -, h⟩ := bind_eq_ok_iff.mp h
    cases more with
    | true =>
      obtain ⟨⟨set, cur₂⟩, hset, h⟩ := bind_eq_ok_iff.mp h
      exact ih hrest (hkeeps f List.mem_cons_self _ _ _ hset a ha) h
    | false =>
      by_cases hrequired : f.required = true
      · simp [hrequired] at h
      · exact ih hrest ha (by simpa [hrequired] using h)

theorem holds_of_readNamed (hkeeps : ∀ f ∈ s.fields, f.Keeps depth P) {fuel : Nat}
    {seen : List String} {a b : α} {cur next : Cursor} (ha : P a)
    (h : s.readNamed depth fuel seen a cur = .ok (b, next)) : P b := by
  induction fuel generalizing seen a cur with
  | zero => cases h
  | succ fuel ih =>
    rw [readNamed] at h
    obtain ⟨⟨more, cur₁⟩, -, h⟩ := bind_eq_ok_iff.mp h
    cases more with
    | false =>
      -- The members are at an end, and the record is what they made of it.
      dsimp only at h
      split at h
      · contradiction
      · split at h
        · cases h
        · cases h
          exact ha
    | true =>
      obtain ⟨⟨key, cur₂⟩, -, h⟩ := bind_eq_ok_iff.mp h
      dsimp only at h
      split at h
      · next f hfield =>
        split at h
        · cases h
        · obtain ⟨cur₃, -, h⟩ := bind_eq_ok_iff.mp h
          obtain ⟨⟨set, cur₄⟩, hset, h⟩ := bind_eq_ok_iff.mp h
          exact ih (hkeeps f (List.mem_of_find?_eq_some hfield) _ _ _ hset a ha) h
      · obtain ⟨cur₃, -, h⟩ := bind_eq_ok_iff.mp h
        obtain ⟨cur₄, -, h⟩ := bind_eq_ok_iff.mp h
        exact ih ha h

theorem gives_read (hblank : P s.blank) (hkeeps : ∀ f ∈ s.fields, f.Keeps depth P) :
    Gives (s.read (depth + 1)) P := by
  intro cur a next h
  unfold read at h
  dsimp only at h
  split at h
  · cases h
  · split_ifs at h
    · obtain ⟨inner, hbody⟩ := closeBody_eq_ok h
      exact holds_of_readElements hkeeps hblank hbody
    · obtain ⟨inner, hbody⟩ := closeBody_eq_ok h
      exact holds_of_readNamed hkeeps hblank hbody

/-- A property that the record without any fields read has, and that no field takes away, holds of
the record that a text holds. -/
theorem holds_of_readText (hblank : P s.blank)
    (hkeeps : ∀ f ∈ s.fields, f.Keeps (nestingLimit - 1) P) {t : String} {a : α}
    (h : s.readText t = .ok a) : P a := by
  obtain ⟨⟨b, cur⟩, hread, h⟩ := bind_eq_ok_iff.mp h
  obtain ⟨-, -, h⟩ := bind_eq_ok_iff.mp h
  cases h
  exact gives_read hblank hkeeps _ _ _ hread

end Shape
end Fields

/-! ## Values of fields -/

/-- An integer that is read is within the range that was asked for. -/
theorem gives_integer (low high : Int) (expected : String) :
    Gives (readInteger low high expected) fun n => low ≤ n ∧ n ≤ high := by
  intro cur n next h
  unfold readInteger at h
  dsimp only at h
  split at h
  · cases h
  · split_ifs at h
    obtain ⟨⟨numeral, after⟩, -, h⟩ := bind_eq_ok_iff.mp h
    dsimp only at h
    split at h
    · cases h
    · split_ifs at h with hrange
      cases h
      simpa using hrange
    · cases h

/-! ## Records and texts -/

/-- Records that carry a value come back from their texts.  The record is a container itself, so
that containers may be nested one less deep in the value. -/
structure RoundTrips {α : Type} (text : α → String) (read : String → Except Refusal α)
    (carried : α → Json) (fits : α → Prop) : Prop where
  read_text : ∀ a, Readable (nestingLimit - 1) (carried a) →
    numberKey ∉ (carried a).keysWithin → fits a → read (text a) = .ok a
  /-- A text that holds a record need not be the text that is written for it. -/
  reread : ∀ t a, read t = .ok a → numberKey ∉ (carried a).keysWithin →
    read (text a) = .ok a ∧ (read (text a)).map text = .ok (text a)

/-- Everything that is read fits and can be written, so it is read back from what is written. -/
theorem RoundTrips.of_gives {α : Type} {text : α → String} {read : String → Except Refusal α}
    {carried : α → Json} {fits : α → Prop}
    (hread : ∀ a, Readable (nestingLimit - 1) (carried a) →
      numberKey ∉ (carried a).keysWithin → fits a → read (text a) = .ok a)
    (hgives : ∀ t a, read t = .ok a → Readable (nestingLimit - 1) (carried a) ∧ fits a) :
    RoundTrips text read carried fits where
  read_text := hread
  reread t a h hordinary := by
    obtain ⟨hreadable, hfits⟩ := hgives t a h
    have hback : read (text a) = .ok a := hread a hreadable hordinary hfits
    refine ⟨hback, ?_⟩
    rw [hback]
    rfl

end Json
end RelayDesk
