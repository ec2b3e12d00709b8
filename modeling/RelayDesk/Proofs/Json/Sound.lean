import RelayDesk.Proofs.Json.Parts

/-!
What reading gives.  A property of everything that the reader of an item gives holds of all items
of an array and all values of an object; with it a text that is read holds a value in normal form.
-/

namespace RelayDesk
namespace Json

/-- Whatever `read` gives has the property. -/
def Gives {α : Type} (read : Cursor → Except Refusal (α × Cursor)) (P : α → Prop) : Prop :=
  ∀ cur value next, read cur = .ok (value, next) → P value

/-! ## Containers -/

section Containers

variable {α : Type} {item : Cursor → Except Refusal (α × Cursor)} {P : α → Prop}

theorem gives_parts {fault : Fault} {next : Bool → Cursor → Except Refusal (Bool × Cursor)}
    (hitem : Gives item P) (fuel : Nat) (first : Bool) :
    Gives (readParts fault next item fuel first) fun xs => ∀ x ∈ xs, P x := by
  induction fuel generalizing first with
  | zero =>
    intro cur xs after h
    cases h
  | succ fuel ih =>
    intro cur xs after h
    rw [readParts] at h
    obtain ⟨⟨more, cur₁⟩, -, h⟩ := bind_eq_ok_iff.mp h
    cases more with
    | false =>
      cases h
      intro x hx
      cases hx
    | true =>
      obtain ⟨⟨x, cur₂⟩, hx, h⟩ := bind_eq_ok_iff.mp h
      obtain ⟨⟨rest, cur₃⟩, hrest, h⟩ := bind_eq_ok_iff.mp h
      cases h
      intro y hy
      rcases List.mem_cons.mp hy with rfl | hy
      · exact hitem _ _ _ hx
      · exact ih false _ _ _ hrest y hy

theorem gives_array (hitem : Gives item P) : Gives (readArray item) fun xs => ∀ x ∈ xs, P x := by
  intro cur xs next h
  obtain ⟨⟨ys, cur₁⟩, hitems, h⟩ := bind_eq_ok_iff.mp h
  obtain ⟨-, -, h⟩ := bind_eq_ok_iff.mp h
  cases h
  rw [readItems_eq] at hitems
  exact gives_parts hitem _ _ _ _ _ hitems

theorem gives_member (hitem : Gives item P) : Gives (readMember item) fun m => P m.2 := by
  intro cur m next h
  obtain ⟨⟨key, cur₁⟩, -, h⟩ := bind_eq_ok_iff.mp h
  obtain ⟨cur₂, -, h⟩ := bind_eq_ok_iff.mp h
  obtain ⟨⟨x, cur₃⟩, hx, h⟩ := bind_eq_ok_iff.mp h
  cases h
  exact hitem _ _ _ hx

theorem gives_object (hitem : Gives item P) :
    Gives (readObject item) fun ms => ∀ m ∈ ms, P m.2 := by
  intro cur ms next h
  obtain ⟨⟨ns, cur₁⟩, hmembers, h⟩ := bind_eq_ok_iff.mp h
  obtain ⟨-, -, h⟩ := bind_eq_ok_iff.mp h
  cases h
  rw [readMembers_eq] at hmembers
  exact gives_parts (gives_member hitem) _ _ _ _ _ hmembers

end Containers

/-! ## Values -/

theorem wellFormed_of_readNumberText {s : String} {n : Numeral} (h : readNumberText s = .ok n) :
    n.WellFormed := by
  unfold readNumberText at h
  dsimp only at h
  split at h
  · cases h
  · split at h
    · obtain ⟨⟨m, cur⟩, hscan, h⟩ := bind_eq_ok_iff.mp h
      dsimp only at h
      split at h
      · cases h
        exact wellFormed_of_scanNumeral (mapError_eq_ok_iff.mp hscan)
      · cases h
    · cases h

theorem gives_taggedNumber (depth : Nat) : Gives readTaggedNumber (Readable depth) := by
  intro cur v next h
  unfold readTaggedNumber at h
  dsimp only at h
  split at h
  · cases h
  · split at h
    · obtain ⟨⟨s, cur₁⟩, -, h⟩ := bind_eq_ok_iff.mp h
      obtain ⟨n, hn, h⟩ := bind_eq_ok_iff.mp h
      cases h
      exact .num (wellFormed_of_readNumberText hn)
    · cases h

theorem gives_scalar (depth : Nat) (c : Char) : Gives (readScalar c) (Readable depth) := by
  intro cur v next h
  unfold readScalar at h
  split_ifs at h
  · obtain ⟨cur₁, -, h⟩ := bind_eq_ok_iff.mp h
    cases h
    exact .null
  · obtain ⟨cur₁, -, h⟩ := bind_eq_ok_iff.mp h
    cases h
    exact .bool true
  · obtain ⟨cur₁, -, h⟩ := bind_eq_ok_iff.mp h
    cases h
    exact .bool false
  · obtain ⟨⟨n, cur₁⟩, hn, h⟩ := bind_eq_ok_iff.mp h
    cases h
    exact .num (wellFormed_of_readNumeral hn)
  · obtain ⟨⟨s, cur₁⟩, -, h⟩ := bind_eq_ok_iff.mp h
    cases h
    exact .str s

/-- An object in braces holds what its items hold, one container deeper; a marked number is no
container. -/
theorem gives_braced {depth : Nat} {item : Cursor → Except Refusal (Json × Cursor)}
    (hitem : Gives item (Readable depth)) : Gives (readBraced item) (Readable (depth + 1)) := by
  intro cur v next h
  unfold readBraced at h
  split at h
  · obtain ⟨cur₁, -, h⟩ := bind_eq_ok_iff.mp h
    obtain ⟨⟨w, cur₂⟩, hw, h⟩ := bind_eq_ok_iff.mp h
    obtain ⟨-, -, h⟩ := bind_eq_ok_iff.mp h
    cases h
    exact gives_taggedNumber _ _ _ _ hw
  · obtain ⟨⟨ms, cur₁⟩, hms, h⟩ := bind_eq_ok_iff.mp h
    cases h
    have hmembers := gives_object hitem _ _ _ hms
    exact .obj (Keyed.sorted_ofList ms) fun m hm => hmembers m (Keyed.mem_of_mem_ofList hm)

/-- Reading gives values in normal form, nested no deeper than was allowed. -/
theorem gives_value (depth : Nat) : Gives (readValue depth) (Readable depth) := by
  -- The depth shrinks only where a container opens; its parts are read at the depth left.
  induction depth with
  | zero =>
    intro cur v next h
    unfold readValue at h
    dsimp only at h
    split at h
    · cases h
    · split_ifs at h
      exact gives_scalar _ _ _ _ _ h
  | succ depth ih =>
    intro cur v next h
    unfold readValue at h
    dsimp only at h
    split at h
    · cases h
    · split_ifs at h
      · obtain ⟨⟨xs, cur₁⟩, hxs, h⟩ := bind_eq_ok_iff.mp h
        cases h
        exact .arr (gives_array ih _ _ _ hxs)
      · exact gives_braced ih _ _ _ h
      · exact gives_scalar _ _ _ _ _ h

/-- The value that a text holds is in normal form. -/
theorem readable_of_read {t : String} {v : Json} (h : Json.read t = .ok v) :
    Readable nestingLimit v := by
  unfold Json.read at h
  obtain ⟨⟨w, cur⟩, hw, h⟩ := bind_eq_ok_iff.mp h
  obtain ⟨-, -, h⟩ := bind_eq_ok_iff.mp h
  cases h
  exact gives_value _ _ _ _ hw

end Json
end RelayDesk
