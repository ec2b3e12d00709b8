import RelayDesk.Proofs.Action.Nulls
import RelayDesk.Proofs.Cache.Record
import RelayDesk.Proofs.Rpc.Request

/-!
Records on the wire: what the cache keeps, what is sent to a node, and what a caller asks for.  All
three come back from their texts, and so does what was read from a text that was written in another
way.
-/

namespace RelayDesk
namespace Action

open Json (Readable numberKey)
open Rpc (RequestId)

namespace Request

/-- The members of the text of a request make the request, whatever was there before. -/
theorem makes {r : Request} (hreadable : Readable (Json.nestingLimit - 1) r.params)
    (hordinary : numberKey ∉ r.params.keysWithin) (blank : Request) :
    shape.Makes (Json.nestingLimit - 1)
      [("action", .str r.action), ("params", r.params), ("resultsOnly", .bool r.resultsOnly)]
      blank r := by
  refine .cons rfl (Json.Field.takes_of fun rest _ =>
    Json.reads_text "a string" r.action rest) ?_
  refine .cons rfl (Json.Field.takes_of fun rest hrest =>
    Json.reads_value hreadable hordinary hrest) ?_
  refine .cons rfl (Json.Field.takes_of fun rest _ => Json.reads_flag r.resultsOnly rest) ?_
  exact .nil

theorem read_text {r : Request} (hreadable : Readable (Json.nestingLimit - 1) r.params)
    (hordinary : numberKey ∉ r.params.keysWithin) : read r.text = .ok r := by
  have honce : ["action", "params", "resultsOnly"].Nodup := by decide
  have hall : ∀ f ∈ shape.fields, f.required = true →
      f.name ∈ ["action", "params", "resultsOnly"] := by decide
  exact Json.Shape.readText_recordText (makes hreadable hordinary shape.blank) honce hall

/-- What is read has params in normal form, however it was written. -/
theorem readable_of_read {t : String} {r : Request} (h : read t = .ok r) :
    Readable (Json.nestingLimit - 1) r.params := by
  refine Json.Shape.holds_of_readText (s := shape)
    (P := fun r => Readable (Json.nestingLimit - 1) r.params) .null ?_ h
  intro f hf
  simp only [shape, List.mem_cons, List.not_mem_nil, or_false] at hf
  rcases hf with rfl | rfl | rfl
  · exact Json.Field.keeps_of_untouched fun _ _ h => h
  · exact Json.Field.keeps_of (Json.gives_value _) fun _ _ hv _ => hv
  · exact Json.Field.keeps_of_untouched fun _ _ h => h

theorem roundTrips : Json.RoundTrips text read params fun _ => True :=
  .of_gives (fun _ hreadable hordinary _ => read_text hreadable hordinary) fun _ _ h =>
    ⟨readable_of_read h, trivial⟩

/-- In the params of a request that was read no name stands twice. -/
theorem namesOnce_of_read {t : String} {r : Request} (h : read t = .ok r) : r.NamesOnce := by
  intro members hparams
  have hreadable := readable_of_read h
  rw [hparams] at hreadable
  cases hreadable with
  | obj sorted _ => exact Keyed.nodup_keys_of_sorted sorted

end Request

/-- Records of the cache, requests to nodes and requests for actions are read back from their
texts, and what was read is read back from the text that is written for it.  So are ids, and the
texts of a number as an id are its decimal digits, while the same digits in quotes are another
id. -/
theorem wire_records_round_trip :
    Json.RoundTrips Cache.Record.text Cache.Record.read Cache.Record.value
      (fun r => Cache.minTime ≤ r.expiresAt ∧ r.expiresAt ≤ Cache.maxTime) ∧
    Json.RoundTrips Rpc.Request.text Rpc.Request.read Rpc.Request.params (fun r => r.id.Fits) ∧
    Json.RoundTrips Request.text Request.read Request.params (fun _ => True) ∧
    (∀ id : RequestId, id.Fits → RequestId.ofText? id.toJson.text = some id) ∧
    (∀ (t : String) (n : Nat), Json.marksNumber t = false →
      (RequestId.ofText? t = some (.number n) ↔ n < 2 ^ 64 ∧
        ∃ before after, Json.AllJsonBlank before ∧ Json.AllJsonBlank after ∧
          t.toList = before ++ (Text.decimal n ++ after))) ∧
    ∀ n < 2 ^ 64, ∀ digits, digits = String.ofList (Text.decimal n) →
      RequestId.ofText? digits = some (.number n) ∧
      RequestId.ofText? (Json.str digits).text = some (.string digits) := by
  refine ⟨Cache.Record.roundTrips, Rpc.Request.roundTrips, Request.roundTrips,
    RequestId.ofText?_text, fun t n hplain => RequestId.ofText?_eq_number_iff hplain n, ?_⟩
  rintro n hn digits rfl
  exact ⟨RequestId.ofText?_decimal hn, RequestId.ofText?_text (.string _) trivial⟩

/-- A request to a node as it may be written as an array, with digits in quotes for its id. -/
def arrayText : String := "[\"2.0\", \"eth_call\", [1E2], \"7\"]"

def arrayRequest : Rpc.Request where
  jsonrpc := "2.0"
  method := "eth_call"
  params := .arr [.num "1e+2"]
  id := .string "7"

/-- It is read back from the object that is written for it, and its id is not the number seven. -/
theorem arrayRequest_read_back :
    Rpc.Request.read arrayText = .ok arrayRequest ∧
    Rpc.Request.read arrayRequest.text = .ok arrayRequest ∧
    RequestId.ofText? " 7\n" = some (.number 7) ∧
    RequestId.ofText? (Json.str "7").text = some (.string "7") := by
  have hread : Rpc.Request.read arrayText = .ok arrayRequest := by
    rw [← toOption_eq_some_iff]
    decide +kernel
  obtain ⟨-, hrequests, -, -, hnumbers, hdigits⟩ := wire_records_round_trip
  have hordinary : numberKey ∉ arrayRequest.params.keysWithin := List.not_mem_nil
  have hback := (hrequests.reread arrayText arrayRequest hread hordinary).1
  have hplain : Json.marksNumber " 7\n" = false := by decide +kernel
  have hlt : 7 < 2 ^ 64 := by omega
  have hblanks : Json.AllJsonBlank [' '] ∧ Json.AllJsonBlank ['\n'] := by
    simp [Json.AllJsonBlank, Json.Cursor.isJsonBlank]
  have hseven := (hnumbers " 7\n" 7 hplain).mpr
    ⟨hlt, [' '], ['\n'], hblanks.1, hblanks.2, by decide +kernel⟩
  exact ⟨hread, hback, hseven, (hdigits 7 hlt "7" rfl).2⟩

end Action
end RelayDesk
