import RelayDesk.Cache.Call

/-!
What carrying out a call can come to.  A call is answered by a fresh record, or one request is sent
for it, and then its result is kept, or an old record stands in for the failure, or the failure is
given back.  `execute_carries` says this once; facts about stores, requests and results of a run
are read off it by cases.
-/

namespace RelayDesk
namespace Cache

/-- A call at a time, with what comes of its request if one is sent. -/
structure Attempt where
  call : Call
  now : Int
  answer : Rpc.Answer
  deriving DecidableEq, Repr

/-- Whether a result came in reply to the call's own request. -/
def Source.isReplied : Source → Bool
  | .cacheRefresh | .fresh => true
  | .cacheHit | .stale => false

/-! ## Ages -/

theorem expiry_le (base : Int) (seconds : Nat) : expiry base seconds ≤ base + seconds := by
  unfold expiry
  omega

theorem Record.le_of_isFresh_write {key : String} {value : Json} {ttl : Nat} {time now : Int}
    (h : (Record.write key value ttl time).isFresh now = true) : now ≤ time + ttl := by
  have hle : now ≤ expiry time ttl := of_decide_eq_true h
  have := expiry_le time ttl
  omega

theorem Record.le_of_isWithinWindow_write {key : String} {value : Json} {ttl maxStale : Nat}
    {time now : Int} (h : (Record.write key value ttl time).isWithinWindow now maxStale = true) :
    now ≤ time + ttl + maxStale := by
  have hle : now ≤ expiry (expiry time ttl) maxStale := of_decide_eq_true h
  have := expiry_le time ttl
  have := expiry_le (expiry time ttl) maxStale
  omega

/-! ## The memory -/

theorem Memory.find?_insert (m : Memory) (record : Record) (key : String) :
    (m.insert record).find? key = if record.key = key then some record else m.find? key :=
  Keyed.find?_insert record.key key record m.records

/-! ## Sending, keeping and looking -/

namespace Relay

section Post

variable {σ : Type}

@[simp] theorem post_store (r : Relay σ) (call : Call) : (r.post call).store = r.store := rfl

@[simp] theorem post_sent (r : Relay σ) (call : Call) :
    (r.post call).sent = { url := call.url, request := call.request r.nextId } :: r.sent := rfl

@[simp] theorem post_nextId (r : Relay σ) (call : Call) :
    (r.post call).nextId = r.nextId + 1 := rfl

/-- The relay with its record of requests begun anew. -/
def clean (r : Relay σ) : Relay σ := { r with sent := [] }

@[simp] theorem clean_store (r : Relay σ) : r.clean.store = r.store := rfl

@[simp] theorem clean_nextId (r : Relay σ) : r.clean.nextId = r.nextId := rfl

@[simp] theorem clean_sent (r : Relay σ) : r.clean.sent = [] := rfl

end Post

variable {σ : Type} [Store σ]

@[simp] theorem keep_sent (r : Relay σ) (record : Record) : (r.keep record).sent = r.sent := by
  unfold keep
  split <;> rfl

@[simp] theorem keep_nextId (r : Relay σ) (record : Record) :
    (r.keep record).nextId = r.nextId := by
  unfold keep
  split <;> rfl

/-- A record is kept by a put, or not at all. -/
theorem store_keep (r : Relay σ) (record : Record) :
    (r.keep record).store = r.store ∨ Store.put r.store record = .ok (r.keep record).store := by
  unfold keep
  cases hput : Store.put r.store record with
  | ok store => exact .inr rfl
  | error fault => exact .inl rfl

theorem load_eq_some_iff {r : Relay σ} {key : String} {record : Record} {result : String} :
    r.load key = some (record, result) ↔
      Store.get r.store key = .ok (some record) ∧ record.result? = some result := by
  unfold load
  constructor
  · intro h
    split at h
    · next found hget =>
      obtain ⟨result', hresult, heq⟩ := Option.map_eq_some_iff.mp h
      obtain ⟨rfl, rfl⟩ := Prod.mk.inj heq
      exact ⟨hget, hresult⟩
    · exact absurd h (by simp)
  · rintro ⟨hget, hresult⟩
    rw [hget]
    simp [hresult]

theorem load_memory_iff {r : Relay Memory} {key : String} {record : Record} {result : String} :
    r.load key = some (record, result) ↔
      r.store.find? key = some record ∧ record.result? = some result := by
  rw [load_eq_some_iff]
  show Except.ok (r.store.find? key) = .ok (some record) ∧ _ ↔ _
  simp

@[simp] theorem keep_memory (r : Relay Memory) (record : Record) :
    r.keep record = { r with store := r.store.insert record } := rfl

/-! ## The ends of a call -/

/-- A record with a result under the key is fresh at `now`. -/
def HoldsFresh (r : Relay σ) (key : String) (now : Int) : Prop :=
  ∃ record result, r.load key = some (record, result) ∧ record.isFresh now = true

theorem holdsFresh_iff {r : Relay σ} {key : String} {now : Int} :
    r.HoldsFresh key now ↔ (r.load key).any (fun c => c.1.isFresh now) = true := by
  unfold HoldsFresh
  cases r.load key with
  | none => simp
  | some found =>
    obtain ⟨record, result⟩ := found
    simp

instance (r : Relay σ) (key : String) (now : Int) : Decidable (r.HoldsFresh key now) :=
  decidable_of_iff _ holdsFresh_iff.symm

/-- Whether the call may be answered without a request. -/
def Silent (r : Relay σ) (config : Config) (x : Attempt) : Prop :=
  config.strictMode = false ∧ r.HoldsFresh x.call.key x.now

/-- The record that a call keeps for a result. -/
def keptRecord (config : Config) (x : Attempt) (result : String) : Record :=
  .write x.call.key (keptValue result x.now) (x.call.policy config).ttlSeconds x.now

/-- What an attempt may come to, with the relay after it. -/
inductive Carries (config : Config) (x : Attempt) (r : Relay σ) :
    Except Rpc.Failure Outcome × Relay σ → Prop
  | hit {record : Record} {result : String} (lenient : config.strictMode = false)
      (found : r.load x.call.key = some (record, result)) (fresh : record.isFresh x.now = true) :
      Carries config x r (.ok { source := .cacheHit, result, key := x.call.key }, r)
  | kept {result : String} {source : Source} (posted : ¬ r.Silent config x)
      (answered : x.answer.result = .ok result)
      (label : source = if r.HoldsFresh x.call.key x.now then .cacheRefresh else .fresh) :
      Carries config x r
        (.ok { source, result, key := x.call.key },
          (r.post x.call).keep (keptRecord config x result))
  | bridged {failure : Rpc.Failure} {record : Record} {result : String}
      (posted : ¬ r.Silent config x) (answered : x.answer.result = .error failure)
      (found : r.load x.call.key = some (record, result))
      (bridge : bridges (x.call.policy config) failure record x.now = true) :
      Carries config x r
        (.ok { source := .stale, result, key := x.call.key }, r.post x.call)
  | failed {failure : Rpc.Failure} (posted : ¬ r.Silent config x)
      (answered : x.answer.result = .error failure)
      (unbridged : ∀ record result, r.load x.call.key = some (record, result) →
        bridges (x.call.policy config) failure record x.now = false) :
      Carries config x r (.error failure, r.post x.call)

/-- A call that needs no request gives the fresh record's result and changes nothing. -/
theorem execute_of_fresh {config : Config} {x : Attempt} {r : Relay σ} {record : Record}
    {result : String} (lenient : config.strictMode = false)
    (found : r.load x.call.key = some (record, result)) (fresh : record.isFresh x.now = true) :
    r.execute config x.call x.now x.answer =
      (.ok { source := .cacheHit, result, key := x.call.key }, r) := by
  unfold execute
  rw [found]
  simp [lenient, fresh]

theorem execute_of_posted {config : Config} {x : Attempt} {r : Relay σ}
    (posted : ¬ r.Silent config x) :
    r.execute config x.call x.now x.answer =
      (r.post x.call).settle config x.call (r.load x.call.key) x.now x.answer := by
  unfold execute
  cases hload : r.load x.call.key with
  | none => rfl
  | some found =>
    obtain ⟨record, result⟩ := found
    by_cases hserved : config.strictMode = false ∧ record.isFresh x.now = true
    · exact absurd ⟨hserved.1, record, result, hload, hserved.2⟩ posted
    · have hcond : (!config.strictMode && record.isFresh x.now) = false := by
        cases hs : config.strictMode <;> simp_all
      simp [hcond]

/-- The key that is given to a call matters through the key that the call has by it only. -/
theorem execute_of_key_eq (r : Relay σ) (config : Config) {call : Call} {cacheKey : Option String}
    (now : Int) (answer : Rpc.Answer) (h : ({ call with cacheKey } : Call).key = call.key) :
    r.execute config { call with cacheKey } now answer = r.execute config call now answer := by
  unfold execute settle
  simp only [h]
  rfl

/-- Every attempt comes to one of the four ends. -/
theorem execute_carries (config : Config) (x : Attempt) (r : Relay σ) :
    Carries config x r (r.execute config x.call x.now x.answer) := by
  by_cases hsilent : r.Silent config x
  · obtain ⟨lenient, record, result, found, fresh⟩ := hsilent
    rw [execute_of_fresh lenient found fresh]
    exact .hit lenient found fresh
  · rw [execute_of_posted hsilent]
    unfold settle
    cases hanswer : x.answer.result with
    | ok result =>
      refine .kept hsilent hanswer ?_
      simp only [holdsFresh_iff]
    | error failure =>
      cases hload : r.load x.call.key with
      | none => exact .failed hsilent hanswer (by simp [hload])
      | some found =>
        obtain ⟨record, result⟩ := found
        by_cases hbridge : bridges (x.call.policy config) failure record x.now = true
        · simp only [hbridge, if_true]
          exact .bridged hsilent hanswer hload hbridge
        · simp only [hbridge, if_false, Bool.false_eq_true]
          refine .failed hsilent hanswer fun record' result' h => ?_
          rw [hload] at h
          obtain ⟨rfl, -⟩ := Prod.mk.inj (Option.some.inj h)
          simpa using hbridge

/-- A call that needs no request leaves the relay as it is, and every other call sends exactly one,
under the next id. -/
theorem Carries.sent {config : Config} {x : Attempt} {r : Relay σ}
    {p : Except Rpc.Failure Outcome × Relay σ} (h : Carries config x r p) :
    (r.Silent config x ∧ p.2 = r) ∨
      (¬ r.Silent config x ∧ p.2.nextId = r.nextId + 1 ∧
        p.2.sent = { url := x.call.url, request := x.call.request r.nextId } :: r.sent) := by
  cases h with
  | hit lenient found fresh => exact .inl ⟨⟨lenient, _, _, found, fresh⟩, rfl⟩
  | kept posted => exact .inr ⟨posted, by simp, by simp⟩
  | bridged posted => exact .inr ⟨posted, by simp, by simp⟩
  | failed posted => exact .inr ⟨posted, by simp, by simp⟩

end Relay
end Cache
end RelayDesk
