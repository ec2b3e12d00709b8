import RelayDesk.Proofs.Json.ShapeSound
import RelayDesk.Proofs.Json.WholeText
import RelayDesk.Rpc.Request

/-!
Requests on the wire and their ids.  An id is read through a value of any kind, while it is written
straight; both ways agree on every id whose number has 64 bits, and so requests are read back as
they were.
-/

namespace RelayDesk
namespace Rpc

open Json (Readable numberKey)

/-! ## Ids -/

namespace RequestId

/-- A number has 64 bits. -/
def Fits : RequestId → Prop
  | .number n => n < 2 ^ 64
  | _ => True

/-- The id that a whole text holds, if it holds one. -/
def ofText? (t : String) : Option RequestId := do
  let (id, cur) ← (read Json.nestingLimit (.start t)).toOption
  let _ ← (Json.readEnd cur).toOption
  return id

variable {id : RequestId}

theorem readable_toJson (depth : Nat) (id : RequestId) : Readable depth id.toJson := by
  cases id with
  | number n => exact Json.readable_ofInt depth n
  | string s => exact .str s
  | null => exact .null

theorem numberKey_not_mem_toJson (id : RequestId) : numberKey ∉ id.toJson.keysWithin := by
  cases id <;> exact List.not_mem_nil

theorem ofJson_num {depth : Nat} {text : String} (h : Readable depth (.num text)) {n : Nat} :
    ofJson (.num text) = .ok (.number n) ↔ Json.num text = .ofNat n ∧ n < 2 ^ 64 := by
  rw [← Json.unsigned?_eq_some_iff h]
  unfold ofJson
  dsimp only
  cases Number.unsigned? text.toList <;> simp

theorem ofJson_toJson (h : id.Fits) : ofJson id.toJson = .ok id := by
  cases id with
  | number n => exact (ofJson_num (Json.readable_ofInt 0 n)).mpr ⟨rfl, h⟩
  | string s => rfl
  | null => rfl

/-- A value in normal form denotes a number only as that number itself. -/
theorem ofJson_eq_number_iff {depth : Nat} {v : Json} (h : Readable depth v) {n : Nat} :
    ofJson v = .ok (.number n) ↔ v = .ofNat n ∧ n < 2 ^ 64 := by
  cases v with
  | num text => exact ofJson_num h
  | _ => simp [ofJson, Json.ofNat]

theorem fits_of_ofJson {depth : Nat} {v : Json} (h : Readable depth v) (hid : ofJson v = .ok id) :
    id.Fits := by
  cases id with
  | number n => exact ((ofJson_eq_number_iff h).mp hid).2
  | _ => trivial

theorem read_eq_ok_iff {depth : Nat} {cur next : Json.Cursor} :
    read depth cur = .ok (id, next) ↔
      ∃ v, Json.readValue depth cur = .ok (v, next) ∧ ofJson v = .ok id := by
  unfold read
  rw [bind_eq_ok_iff]
  constructor
  · rintro ⟨⟨v, cur'⟩, hv, h⟩
    dsimp only at h
    split at h
    · next id' hid =>
      cases h
      exact ⟨v, mapError_eq_ok_iff.mp hv, hid⟩
    · cases h
  · rintro ⟨v, hv, hid⟩
    refine ⟨(v, next), mapError_eq_ok_iff.mpr hv, ?_⟩
    simp only [hid]
    rfl

/-- A text holds the id that its value denotes. -/
theorem ofText?_eq_some_iff {t : String} :
    ofText? t = some id ↔ ∃ v, Json.read t = .ok v ∧ ofJson v = .ok id := by
  unfold ofText?
  simp only [Json.read_eq_ok_iff, ← Json.readEnd_eq_ok_iff]
  constructor
  · intro h
    obtain ⟨⟨id', next⟩, hread, h⟩ := Option.bind_eq_some_iff.mp h
    obtain ⟨_, hend, h⟩ := Option.bind_eq_some_iff.mp h
    obtain rfl := Option.some.inj h
    obtain ⟨v, hv, hid⟩ := read_eq_ok_iff.mp (toOption_eq_some_iff.mp hread)
    exact ⟨v, ⟨next, hv, toOption_eq_some_iff.mp hend⟩, hid⟩
  · rintro ⟨v, ⟨next, hv, hend⟩, hid⟩
    have hread : read Json.nestingLimit (.start t) = .ok (id, next) :=
      read_eq_ok_iff.mpr ⟨v, hv, hid⟩
    show ((read Json.nestingLimit (.start t)).toOption >>= _) = _
    rw [toOption_eq_some_iff.mpr hread]
    show ((Json.readEnd next).toOption >>= _) = _
    rw [toOption_eq_some_iff.mpr hend]
    rfl

/-- The text of an id holds that id and no other. -/
theorem ofText?_text (id : RequestId) (h : id.Fits) : ofText? id.toJson.text = some id :=
  ofText?_eq_some_iff.mpr ⟨id.toJson,
    Json.read_text (readable_toJson _ id) (numberKey_not_mem_toJson id), ofJson_toJson h⟩

theorem ofText?_decimal {n : Nat} (h : n < 2 ^ 64) :
    ofText? (String.ofList (Text.decimal n)) = some (.number n) := by
  have htext : (RequestId.number n).toJson.text = String.ofList (Text.decimal n) :=
    String.ofList_toList
  rw [← htext]
  exact ofText?_text (.number n) h

/-- The texts of a number as an id are its decimal digits, with blanks around them. -/
theorem ofText?_eq_number_iff {t : String} (hplain : Json.marksNumber t = false) (n : Nat) :
    ofText? t = some (.number n) ↔ n < 2 ^ 64 ∧
      ∃ before after, Json.AllJsonBlank before ∧ Json.AllJsonBlank after ∧
        t.toList = before ++ (Text.decimal n ++ after) := by
  rw [ofText?_eq_some_iff, ← Json.read_eq_ofNat_iff hplain]
  constructor
  · rintro ⟨v, hv, hid⟩
    obtain ⟨rfl, hn⟩ := (ofJson_eq_number_iff (Json.readable_of_read hv)).mp hid
    exact ⟨hn, hv⟩
  · rintro ⟨hn, hv⟩
    exact ⟨.ofNat n, hv, (ofJson_eq_number_iff (Json.readable_of_read hv)).mpr ⟨rfl, hn⟩⟩

end RequestId

/-! ## Requests -/

namespace Request

/-- The field of a request in which its id stands. -/
def idField : Json.Field Request := shape.fields[3]

theorem takes_id (depth : Nat) {id : RequestId} (h : id.Fits) :
    idField.Takes depth id.toJson fun r => { r with id } := by
  intro rest hrest place
  obtain ⟨next, hvalue⟩ := Json.reads_value (id.readable_toJson depth)
    id.numberKey_not_mem_toJson hrest place
  refine ⟨next, ?_⟩
  have hid : RequestId.read depth ⟨id.toJson.chars ++ rest, place⟩ = .ok (id, ⟨rest, next⟩) :=
    RequestId.read_eq_ok_iff.mpr ⟨id.toJson, hvalue, RequestId.ofJson_toJson h⟩
  show (RequestId.read depth _ >>= _) = _
  rw [hid, ok_bind]
  rfl

theorem keeps_id {depth : Nat} {P : Request → Prop}
    (hset : ∀ id r, RequestId.Fits id → P r → P { r with id }) : idField.Keeps depth P := by
  intro cur set next h r hr
  obtain ⟨⟨id, after⟩, hid, h⟩ := bind_eq_ok_iff.mp h
  cases h
  obtain ⟨v, hv, hof⟩ := RequestId.read_eq_ok_iff.mp hid
  exact hset id r (RequestId.fits_of_ofJson (Json.gives_value depth _ _ _ hv) hof) hr

/-- The members of the text of a request make the request, whatever was there before. -/
theorem makes {r : Request} (hreadable : Readable (Json.nestingLimit - 1) r.params)
    (hordinary : numberKey ∉ r.params.keysWithin) (hid : r.id.Fits) (blank : Request) :
    shape.Makes (Json.nestingLimit - 1)
      [("jsonrpc", .str r.jsonrpc), ("method", .str r.method), ("params", r.params),
       ("id", r.id.toJson)] blank r := by
  refine .cons rfl (Json.Field.takes_of fun rest _ =>
    Json.reads_text "a string" r.jsonrpc rest) ?_
  refine .cons rfl (Json.Field.takes_of fun rest _ =>
    Json.reads_text "a string" r.method rest) ?_
  refine .cons rfl (Json.Field.takes_of fun rest hrest =>
    Json.reads_value hreadable hordinary hrest) ?_
  exact .cons (f := idField) rfl (takes_id _ hid) .nil

theorem read_text {r : Request} (hreadable : Readable (Json.nestingLimit - 1) r.params)
    (hordinary : numberKey ∉ r.params.keysWithin) (hid : r.id.Fits) : read r.text = .ok r := by
  have honce : ["jsonrpc", "method", "params", "id"].Nodup := by decide
  have hall : ∀ f ∈ shape.fields, f.required = true →
      f.name ∈ ["jsonrpc", "method", "params", "id"] := by decide
  exact Json.Shape.readText_recordText (makes hreadable hordinary hid shape.blank) honce hall

/-- What is read has params in normal form and an id that fits, however it was written. -/
theorem fits_of_read {t : String} {r : Request} (h : read t = .ok r) :
    Readable (Json.nestingLimit - 1) r.params ∧ r.id.Fits := by
  refine Json.Shape.holds_of_readText (s := shape)
    (P := fun r => Readable (Json.nestingLimit - 1) r.params ∧ r.id.Fits) ⟨.null, trivial⟩ ?_ h
  intro f hf
  simp only [shape, List.mem_cons, List.not_mem_nil, or_false] at hf
  rcases hf with rfl | rfl | rfl | rfl
  · exact Json.Field.keeps_of_untouched fun _ _ h => h
  · exact Json.Field.keeps_of_untouched fun _ _ h => h
  · exact Json.Field.keeps_of (Json.gives_value _) fun _ _ hv h => ⟨hv, h.2⟩
  · exact keeps_id fun _ _ hid h => ⟨h.1, hid⟩

theorem roundTrips : Json.RoundTrips text read params fun r => r.id.Fits :=
  .of_gives (fun _ => read_text) fun _ _ => fits_of_read

end Request
end Rpc
end RelayDesk
