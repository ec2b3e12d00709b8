import RelayDesk.Cache.Shelf
import RelayDesk.Proofs.Cache.Record
import RelayDesk.Proofs.Rpc.Judgement

/-!
A cache that is of no use to a call.  A store that fails, has no record under the key, or has one
without a result leaves the call as it would be over an empty memory, and so does a store that
refuses the record that the call would keep.  A file of another key, or one that cannot be read as
a record, is such a store for its key.
-/

namespace RelayDesk
namespace Cache

/-! ## Looks that find nothing -/

/-- A look under the key finds no record with a result. -/
inductive FindsNothing {σ : Type} [Store σ] (store : σ) (key : String) : Prop
  | failed {fault : StoreFault} (refused : Store.get store key = .error fault)
  | absent (found : Store.get store key = .ok none)
  | shapeless {record : Record} (found : Store.get store key = .ok (some record))
      (noResult : ∀ text, record.value.member? "result" ≠ some (.str text))

theorem Record.result?_eq_none_iff {record : Record} :
    record.result? = none ↔ ∀ text, record.value.member? "result" ≠ some (.str text) := by
  unfold Record.result?
  split
  · next text htext => simp [htext]
  · next hne => exact ⟨fun _ => hne, fun _ => rfl⟩

section Calls

variable {σ : Type} [Store σ]

theorem load_of_findsNothing {r : Relay σ} {key : String} (h : FindsNothing r.store key) :
    r.load key = none := by
  unfold Relay.load
  cases h with
  | failed refused => rw [refused]
  | absent found => rw [found]
  | shapeless found noResult =>
    rw [found]
    exact Option.map_eq_none_iff.mpr (Record.result?_eq_none_iff.mpr noResult)

theorem findsNothing_empty (key : String) : FindsNothing Memory.empty key := .absent rfl

/-- What a call comes to when nothing is found for it: its request is sent, and the reply decides. -/
theorem execute_of_findsNothing {r : Relay σ} {config : Config} {x : Attempt}
    (h : FindsNothing r.store x.call.key) :
    r.execute config x.call x.now x.answer =
      (x.answer.result.map fun result => { source := .fresh, result, key := x.call.key },
        match x.answer.result with
        | .ok result => (r.post x.call).keep (Relay.keptRecord config x result)
        | .error _ => r.post x.call) := by
  unfold Relay.execute
  rw [load_of_findsNothing h]
  show (r.post x.call).settle config x.call none x.now x.answer = _
  unfold Relay.settle
  cases x.answer.result with
  | ok result => rfl
  | error failure => rfl

end Calls

/-! ## Files -/

/-- The file of a key is read as a record of that key or not at all. -/
theorem key_of_recordOf {key text : String} {record : Record}
    (h : recordOf key text = .ok (some record)) : record.key = key := by
  unfold recordOf at h
  split at h
  · cases h
  · next found hread =>
    by_cases hkey : found.key = key
    · rw [if_pos hkey] at h
      obtain rfl := Option.some.inj (Except.ok.inj h)
      exact hkey
    · rw [if_neg hkey] at h
      cases h

theorem recordOf_of_not_own {key text : String}
    (h : ∀ record, Record.read text = .ok record → record.key ≠ key) (record : Record) :
    recordOf key text ≠ .ok (some record) := by
  intro hrecord
  unfold recordOf at hrecord
  split at hrecord
  · cases hrecord
  · next found hread =>
    rw [if_neg (h found hread)] at hrecord
    cases hrecord

theorem Directory.key_of_find {d : Directory} {key : String} {record : Record}
    (h : d.find key = .ok (some record)) : record.key = key := by
  unfold find at h
  split at h
  · cases h
  · exact key_of_recordOf h

theorem Shelf.key_of_find {s : Shelf} {key : String} {record : Record}
    (h : s.find key = .ok (some record)) : record.key = key := by
  unfold find at h
  split at h
  · cases h
  · cases h
  · exact key_of_recordOf h

theorem Directory.findsNothing_of_not_own {d : Directory} {key text : String}
    (hfile : d.contents? (fileName key) = some text)
    (h : ∀ record, Record.read text = .ok record → record.key ≠ key) : FindsNothing d key := by
  have hget : Store.get d key = recordOf key text := by
    show d.find key = _
    unfold find
    rw [hfile]
  cases hread : recordOf key text with
  | error fault => exact .failed (hget.trans hread)
  | ok found =>
    cases found with
    | none => exact .absent (hget.trans hread)
    | some record => exact absurd hread (recordOf_of_not_own h record)

theorem findsNothing_guarded {s : Guarded} {key : String}
    (h : (∃ fault, s.readFault = some fault) ∨ FindsNothing s.directory key) :
    FindsNothing s key := by
  cases hfault : s.readFault with
  | some fault =>
    have hget : Store.get s key = .error fault := by simp only [Store.get, hfault]
    exact .failed hget
  | none =>
    have hget : Store.get s key = Store.get s.directory key := by simp only [Store.get, hfault]
    rcases h with ⟨fault, hsome⟩ | hnothing
    · rw [hfault] at hsome
      cases hsome
    · cases hnothing with
      | failed refused => exact .failed (hget.trans refused)
      | absent found => exact .absent (hget.trans found)
      | shapeless found noResult => exact .shapeless (hget.trans found) noResult

/-- A store that finds nothing for a call gives it the result, the requests and the next id that an
empty memory gives it, whether or not the store takes the new record.  Whatever stands in its
files, a directory finds no record of another key: a file that is not its own key's record finds
nothing. -/
theorem failing_cache_like_empty (config : Config) (x : Attempt) (nextId : Nat)
    (sent : List Post) :
    (∀ {σ : Type} [Store σ] (store : σ), FindsNothing store x.call.key →
      let carried := Relay.execute { store, nextId, sent } config x.call x.now x.answer
      let uncached :=
        Relay.execute { store := Memory.empty, nextId, sent } config x.call x.now x.answer
      carried.1 = uncached.1 ∧ carried.2.sent = uncached.2.sent ∧
        carried.2.nextId = uncached.2.nextId ∧
        carried.2.sent = { url := x.call.url, request := x.call.request nextId } :: sent) ∧
    (∀ (d : Directory) (key : String),
      (∀ record, Store.get d key = .ok (some record) → record.key = key) ∧
      ∀ text, d.contents? (Directory.fileName key) = some text →
        (∀ record, Record.read text = .ok record → record.key ≠ key) → FindsNothing d key) ∧
    ∀ (s : Shelf) (key : String) (record : Record),
      Store.get s key = .ok (some record) → record.key = key := by
  refine ⟨fun {σ} _ store h => ?_, fun d key => ⟨fun record => Directory.key_of_find,
    fun text => Directory.findsNothing_of_not_own⟩, fun s key record => Shelf.key_of_find⟩
  have hcarried : Relay.execute { store, nextId, sent } config x.call x.now x.answer = _ :=
    execute_of_findsNothing h
  have huncached :
      Relay.execute { store := Memory.empty, nextId, sent } config x.call x.now x.answer = _ :=
    execute_of_findsNothing (findsNothing_empty x.call.key)
  rw [hcarried, huncached]
  cases x.answer.result with
  | ok result => simp
  | error failure => simp

/-- A gas price that was kept under the key `j` until second 9. -/
def priceElsewhere : Record :=
  Relay.keptRecord .default
    { call := { url := "u", method := "eth_gasPrice", params := .null, cacheKey := some "j" }
      now := 0, answer := .failure "not asked" } "0x1"

/-- A directory with that record in the file of the key `k`, on a disk that is full. -/
def misfiled : Guarded where
  directory :=
    { listing? := some [(Directory.fileName "k", priceElsewhere.text)], process := 1, staged := 0 }
  readFault := none
  writeFault := some (.io "no space left")

/-- A block number asked for under that key, with a reply that comes through. -/
def answeredCall : Attempt where
  call := { url := "u", method := "eth_blockNumber", params := .null, cacheKey := some "k" }
  now := 3
  answer := .reply (.okResult "0x2")

/-- Over such a directory the call gets its own reply. -/
theorem misfiled_record_is_skipped :
    FindsNothing misfiled answeredCall.call.key ∧
      (Relay.execute { store := misfiled, nextId := 4, sent := [] } .default answeredCall.call
        answeredCall.now answeredCall.answer).1 =
        .ok { source := .fresh, result := "0x2", key := "k" } := by
  have hfile : misfiled.directory.contents? (Directory.fileName "k") = some priceElsewhere.text :=
    if_pos rfl
  have hread : Record.read priceElsewhere.text = .ok priceElsewhere :=
    Record.read_text (Relay.storable_keptRecord _ _ (by decide))
  have hnothing : FindsNothing misfiled answeredCall.call.key := by
    refine findsNothing_guarded (.inr (Directory.findsNothing_of_not_own hfile ?_))
    intro record hrecord
    rw [hread] at hrecord
    obtain rfl := Except.ok.inj hrecord
    decide
  obtain ⟨hresult, -⟩ :=
    (failing_cache_like_empty .default answeredCall 4 []).1 misfiled hnothing
  refine ⟨hnothing, hresult.trans ?_⟩
  rw [execute_of_findsNothing (findsNothing_empty answeredCall.call.key)]
  show (Rpc.Reply.okResult "0x2").result.map _ = _
  rw [Rpc.result_okResult]
  rfl

end Cache
end RelayDesk
