import RelayDesk.Proofs.Cache.Execute
import RelayDesk.Proofs.Json.Integer
import RelayDesk.Proofs.Json.ShapeSound

/-!
Records in files.  A record whose value can be read back inside an object, and whose expiry can be
told in 64 bits, is read back from its text as it was.  Every record that a call keeps for a result
is of that kind.
-/

namespace RelayDesk
namespace Cache

namespace Record

/-- The records that a file can hold.  The record is an object itself, so that containers may be
nested one less deep in its value. -/
structure Storable (r : Record) : Prop where
  readable : Json.Readable (Json.nestingLimit - 1) r.value
  ordinary : Json.numberKey ∉ r.value.keysWithin
  minTime_le : minTime ≤ r.expiresAt
  le_maxTime : r.expiresAt ≤ maxTime

/-- The members of the text of a record make the record, whatever was there before. -/
theorem makes {r : Record} (h : r.Storable) (blank : Record) :
    shape.Makes (Json.nestingLimit - 1)
      [("key", .str r.key), ("value", r.value), ("expiresAtUnix", .ofInt r.expiresAt)] blank r := by
  refine .cons rfl (Json.Field.takes_of fun rest _ => Json.reads_text "a string" r.key rest) ?_
  refine .cons rfl (Json.Field.takes_of fun rest hrest =>
    Json.reads_value h.readable h.ordinary hrest) ?_
  refine .cons rfl (Json.Field.takes_of fun rest hrest =>
    Json.reads_integer (by decide) (by decide) ⟨h.minTime_le, h.le_maxTime⟩ "i64" hrest) ?_
  exact .nil

theorem read_text {r : Record} (h : r.Storable) : read r.text = .ok r := by
  have honce : ["key", "value", "expiresAtUnix"].Nodup := by decide
  have hall : ∀ f ∈ shape.fields, f.required = true →
      f.name ∈ ["key", "value", "expiresAtUnix"] := by decide
  exact Json.Shape.readText_recordText (makes h shape.blank) honce hall

/-- What is read has a value in normal form and an expiry of 64 bits, however it was written. -/
theorem bounds_of_read {t : String} {r : Record} (h : read t = .ok r) :
    Json.Readable (Json.nestingLimit - 1) r.value ∧ minTime ≤ r.expiresAt ∧
      r.expiresAt ≤ maxTime := by
  refine Json.Shape.holds_of_readText (s := shape) (P := fun r =>
    Json.Readable (Json.nestingLimit - 1) r.value ∧ minTime ≤ r.expiresAt ∧ r.expiresAt ≤ maxTime)
    ⟨.null, by decide, by decide⟩ ?_ h
  intro f hf
  simp only [shape, List.mem_cons, List.not_mem_nil, or_false] at hf
  rcases hf with rfl | rfl | rfl
  · exact Json.Field.keeps_of_untouched fun _ _ h => h
  · exact Json.Field.keeps_of (Json.gives_value _) fun _ _ hv h => ⟨hv, h.2⟩
  · exact Json.Field.keeps_of (Json.gives_integer _ _ _) fun _ _ hn h => ⟨h.1, hn⟩

theorem roundTrips :
    Json.RoundTrips text read value fun r => minTime ≤ r.expiresAt ∧ r.expiresAt ≤ maxTime :=
  .of_gives (fun _ hreadable hordinary hfits =>
    read_text ⟨hreadable, hordinary, hfits.1, hfits.2⟩) fun _ _ => bounds_of_read

theorem storable_write {key : String} {value : Json} {now : Int} (ttl : Nat)
    (hreadable : Json.Readable (Json.nestingLimit - 1) value)
    (hordinary : Json.numberKey ∉ value.keysWithin) (hnow : minTime ≤ now) :
    (write key value ttl now).Storable where
  readable := hreadable
  ordinary := hordinary
  minTime_le := by
    have hmax : minTime ≤ maxTime := by decide
    have hzero : 0 ≤ maxTime := by decide
    show minTime ≤ expiry now ttl
    unfold expiry
    omega
  le_maxTime := by
    show expiry now ttl ≤ maxTime
    unfold expiry
    omega

end Record

/-- The value that a call keeps is an object of a string and a number. -/
theorem Relay.members_keptValue {result : String} {now : Int} {m : String × Json}
    (h : m ∈ Keyed.ofList [("result", .str result), ("fetchedAtUnix", .ofInt now)]) :
    m = ("result", .str result) ∨ m = ("fetchedAtUnix", .ofInt now) := by
  simpa using Keyed.mem_of_mem_ofList h

theorem Relay.readable_keptValue (depth : Nat) (result : String) (now : Int) :
    Json.Readable (depth + 1) (keptValue result now) := by
  refine .obj (Keyed.sorted_ofList _) fun m hm => ?_
  rcases members_keptValue hm with rfl | rfl
  · exact .str result
  · exact Json.readable_ofInt depth now

theorem Relay.numberKey_not_mem_keptValue (result : String) (now : Int) :
    Json.numberKey ∉ (keptValue result now).keysWithin := by
  intro hkey
  obtain ⟨m, hm, hkey⟩ := Json.mem_keysWithin_obj.mp hkey
  rcases members_keptValue hm with rfl | rfl
  · exact absurd hkey (by simp [Json.keysWithin, Json.numberKey])
  · exact absurd hkey (by simp [Json.keysWithin, Json.numberKey, Json.ofInt])

/-- What a call keeps can be read back from a file, whatever the result is. -/
theorem Relay.storable_keptRecord (config : Config) {x : Attempt} (result : String)
    (hnow : minTime ≤ x.now) : (keptRecord config x result).Storable :=
  Record.storable_write _ (readable_keptValue _ result x.now)
    (numberKey_not_mem_keptValue result x.now) hnow

/-- The file of a key gives its own record back. -/
theorem recordOf_text {r : Record} (h : r.Storable) : recordOf r.key r.text = .ok (some r) := by
  unfold recordOf
  rw [Record.read_text h]
  exact congrArg Except.ok (if_pos rfl)

end Cache
end RelayDesk
