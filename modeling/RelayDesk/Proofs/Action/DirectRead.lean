import RelayDesk.Proofs.Action.Blocking
import RelayDesk.Proofs.Action.Persistence

/-!
What a direct read finds.  The requests of a session and the envelopes that answer them tell which
values were written under which keys: a put that was answered ok wrote its value, and a call wrote
its result if that came in reply to a request of its own.  A direct read gives the last of these
writes to its key, and a miss if there is none.
-/

namespace RelayDesk
namespace Action

open Cache (Attempt Memory Relay Store)

/-! ## Writes that an exchange tells of -/

/-- What a request and the envelope that answers it tell of a write. -/
inductive Inquiry.Tells (d : Desk) (q : Inquiry) (envelope : Envelope) : Write → Prop
  | put {e : Entry Operation} {p : Params} {key : String} {ttlSeconds : Nat} {value : Json}
      (permitted : d.permit q.request.action = .ok e) (isPut : e.action = .cachePut)
      (given : Params.ofJson q.request.params = .ok p) (keyed : p.text keyNames = .ok key)
      (lasting : p.whole? ["ttlSeconds", "ttl"] = .ok (some ttlSeconds))
      (valued : p.value? ["value"] = .ok (some value)) (ok : envelope.status = .ok) :
      Tells d q envelope { key, value, ttlSeconds, time := q.now }
  | called {e : Entry Operation} {p : Params} {call : Cache.Call} {result : Json}
      {key text : String} (permitted : d.permit q.request.action = .ok e)
      (isCall : e.action = .rpcCallCached) (given : Params.ofJson q.request.params = .ok p)
      (asked : callOfParams p = .ok call) (ok : envelope.status = .ok)
      (answered : envelope.result = some result)
      (replied : result.member? "source" = some (.str "fresh") ∨
        result.member? "source" = some (.str "cache_refresh"))
      (keyed : result.member? "cacheKey" = some (.str key))
      (resulted : result.member? "result" = some (.str text)) :
      Tells d q envelope
        { key
          value := .object [("result", .str text), ("fetchedAtUnix", .ofInt q.now)]
          ttlSeconds := (call.policy d.config).ttlSeconds
          time := q.now }

/-- The requests of a run, each with the envelope that answers it. -/
def Session.exchanges {σ : Type} [Store σ] (s : Session σ) :
    List Inquiry → List (Inquiry × Envelope)
  | [] => []
  | q :: rest => (q, s.envelope q) :: (s.step q.step).2.exchanges rest

/-- The exchanges are what the run reports, each envelope in the shape that was asked for. -/
theorem answers_run_inquiries {σ : Type} [Store σ] (s : Session σ) (qs : List Inquiry) :
    (s.run (qs.map Inquiry.step)).1.map Report.answer =
      (s.exchanges qs).map fun x => .dispatched (x.2.output x.1.request.wantsResultsOnly) := by
  induction qs generalizing s with
  | nil => rfl
  | cons q rest ih =>
    rw [List.map_cons, Session.run_cons, List.map_cons, Session.exchanges, List.map_cons,
      answer_inquiry, ih]

theorem writeOfParams?_eq_some_iff {p : Params} {now : Int} {w : Write} :
    writeOfParams? p now = some w ↔
      ∃ key ttlSeconds value, p.text keyNames = .ok key ∧
        p.whole? ["ttlSeconds", "ttl"] = .ok (some ttlSeconds) ∧
        p.value? ["value"] = .ok (some value) ∧
        { key, value, ttlSeconds, time := now } = w := by
  unfold writeOfParams?
  simp only [Option.bind_eq_bind, Option.bind_eq_some_iff, toOption_eq_some_iff, Option.pure_def,
    Option.some.injEq]
  constructor
  · rintro ⟨key, hkey, ttl?, hlasting, ttlSeconds, rfl, value?, hvalue, value, rfl, rfl⟩
    exact ⟨key, ttlSeconds, value, hkey, hlasting, hvalue, rfl⟩
  · rintro ⟨key, ttlSeconds, value, hkey, hlasting, hvalue, rfl⟩
    exact ⟨key, hkey, _, hlasting, ttlSeconds, rfl, _, hvalue, value, rfl, rfl⟩

section Effects

variable {d : Desk} {request : Request} {now : Int} {answer : Rpc.Answer}

theorem effect_eq_put_iff {w : Write} :
    d.effect request now answer = .put w ↔
      ∃ e p, d.permit request.action = .ok e ∧ Params.ofJson request.params = .ok p ∧
        e.action = .cachePut ∧ writeOfParams? p now = some w := by
  unfold Desk.effect
  constructor
  · intro h
    split at h
    · next e p hpermit hparams =>
      unfold Operation.effect at h
      split at h
      · split at h <;> cases h
      · next hop =>
        split at h
        · next w' hw =>
          obtain rfl := Effect.put.inj h
          exact ⟨e, p, hpermit, hparams, hop, hw⟩
        · cases h
      · cases h
    · cases h
  · rintro ⟨e, p, hpermit, hparams, hop, hw⟩
    simp only [hpermit, hparams, Operation.effect, hop, hw]

theorem effect_eq_attempt_iff {x : Attempt} :
    d.effect request now answer = .attempt x ↔
      ∃ e p call, d.permit request.action = .ok e ∧ Params.ofJson request.params = .ok p ∧
        e.action = .rpcCallCached ∧ callOfParams p = .ok call ∧ { call, now, answer } = x := by
  unfold Desk.effect
  constructor
  · intro h
    split at h
    · next e p hpermit hparams =>
      unfold Operation.effect at h
      split at h
      · next hop =>
        split at h
        · next call hcall =>
          exact ⟨e, p, call, hpermit, hparams, hop, hcall, Effect.attempt.inj h⟩
        · cases h
      · split at h <;> cases h
      · cases h
    · cases h
  · rintro ⟨e, p, call, hpermit, hparams, hop, hcall, rfl⟩
    simp only [hpermit, hparams, Operation.effect, hop, hcall]

end Effects

theorem isReplied_iff {source : Cache.Source} :
    source.isReplied = true ↔ source.name = "fresh" ∨ source.name = "cache_refresh" := by
  cases source <;> decide

theorem member?_source_toJson (o : Cache.Outcome) :
    o.toJson.member? "source" = some (.str o.source.name) := by
  unfold Cache.Outcome.toJson
  rw [Json.member?_object]
  rfl

theorem member?_result_toJson (o : Cache.Outcome) :
    o.toJson.member? "result" = some (.str o.result) := by
  unfold Cache.Outcome.toJson
  rw [Json.member?_object]
  rfl

theorem envelope_of_attempt {s : Session Memory} {q : Inquiry} {x : Attempt}
    (h : s.desk.effect q.request q.now q.answer = .attempt x) :
    s.envelope q = .of (actionResult (s.attempt x).1) := by
  unfold Session.envelope Desk.answer
  rw [Desk.run_of_attempt h]
  rfl

theorem status_envelope_of_put {s : Session Memory} {q : Inquiry} {w : Write}
    (h : s.desk.effect q.request q.now q.answer = .put w) : (s.envelope q).status = .ok := by
  unfold Session.envelope Desk.answer
  rw [Desk.run_of_put h rfl]
  rfl

/-- An answer that shows a result sent for is that of a call which kept it. -/
theorem exists_outcome_of_replied {result : Except Rpc.Failure Cache.Outcome} {value : Json}
    {key text : String} (answered : (Envelope.of (actionResult result)).result = some value)
    (replied : value.member? "source" = some (.str "fresh") ∨
      value.member? "source" = some (.str "cache_refresh"))
    (keyed : value.member? "cacheKey" = some (.str key))
    (resulted : value.member? "result" = some (.str text)) :
    ∃ o, result = .ok o ∧ o.source.isReplied = true ∧ o.key = key ∧ o.result = text := by
  cases result with
  | error failure => cases answered
  | ok o =>
    obtain rfl := Option.some.inj answered
    rw [member?_source_toJson] at replied
    rw [member?_toJson] at keyed
    rw [member?_result_toJson] at resulted
    refine ⟨o, rfl, isReplied_iff.mpr ?_, ?_, ?_⟩
    · simpa using replied
    · simpa using keyed
    · simpa using resulted

/-- A request and its envelope tell of the write that the step makes, and of no other. -/
theorem tells_iff {s : Session Memory} {q : Inquiry} {w : Write} :
    q.Tells s.desk (s.envelope q) w ↔ s.write? q.step = some w := by
  have heffect : q.step.effect s.desk = s.desk.effect q.request q.now q.answer := rfl
  unfold Session.write?
  constructor
  · intro h
    cases h with
    | put permitted isPut given keyed lasting valued ok =>
      have hwrite : writeOfParams? _ q.now = some _ :=
        writeOfParams?_eq_some_iff.mpr ⟨_, _, _, keyed, lasting, valued, rfl⟩
      rw [heffect, effect_eq_put_iff.mpr ⟨_, _, permitted, given, isPut, hwrite⟩]
    | called permitted isCall given asked ok answered replied keyed resulted =>
      have hattempt : s.desk.effect q.request q.now q.answer = .attempt _ :=
        effect_eq_attempt_iff.mpr ⟨_, _, _, permitted, given, isCall, asked, rfl⟩
      rw [envelope_of_attempt hattempt] at answered
      obtain ⟨o, ho, hreplied, rfl, rfl⟩ :=
        exists_outcome_of_replied answered replied keyed resulted
      rw [heffect, hattempt]
      exact keptWrite?_eq_some_iff.mpr ⟨o, ho, hreplied, rfl⟩
  · intro h
    rw [heffect] at h
    cases hdesk : s.desk.effect q.request q.now q.answer with
    | nothing =>
      rw [hdesk] at h
      cases h
    | put v =>
      rw [hdesk] at h
      obtain rfl := Option.some.inj h
      obtain ⟨e, p, hpermit, hparams, hop, hw⟩ := effect_eq_put_iff.mp hdesk
      obtain ⟨key, ttlSeconds, value, hkey, hlasting, hvalue, rfl⟩ :=
        writeOfParams?_eq_some_iff.mp hw
      exact .put hpermit hop hparams hkey hlasting hvalue (status_envelope_of_put hdesk)
    | attempt x =>
      rw [hdesk] at h
      obtain ⟨e, p, call, hpermit, hparams, hop, hcall, rfl⟩ := effect_eq_attempt_iff.mp hdesk
      obtain ⟨o, ho, hreplied, rfl⟩ := keptWrite?_eq_some_iff.mp h
      rw [envelope_of_attempt hdesk, ho]
      have hsource := member?_source_toJson o
      refine .called hpermit hop hparams hcall rfl rfl ?_ (member?_toJson o)
        (member?_result_toJson o)
      simpa [hsource] using isReplied_iff.mp hreplied

/-! ## The last write that is told of -/

/-- Nothing in the exchanges tells of a write to the key. -/
def NoneTold (d : Desk) (key : String) (xs : List (Inquiry × Envelope)) : Prop :=
  ∀ x ∈ xs, ∀ w, x.1.Tells d x.2 w → w.key ≠ key

theorem noneTold_cons {d : Desk} {key : String} {x : Inquiry × Envelope}
    {xs : List (Inquiry × Envelope)} :
    NoneTold d key (x :: xs) ↔
      (∀ w, x.1.Tells d x.2 w → w.key ≠ key) ∧ NoneTold d key xs := List.forall_mem_cons

theorem writes_inquiries (s : Session Memory) (q : Inquiry) (rest : List Inquiry) :
    s.writes ((q :: rest).map Inquiry.step) =
      (s.write? q.step).toList ++ (s.step q.step).2.writes (rest.map Inquiry.step) := rfl

theorem desk_step_inquiry {σ : Type} [Store σ] (s : Session σ) (q : Inquiry) :
    (s.step q.step).2.desk = s.desk := Session.desk_step fun _ _ h => by cases h

theorem lastWrite?_eq_none_iff_noneTold {s : Session Memory} {qs : List Inquiry} {key : String} :
    lastWrite? key (s.writes (qs.map Inquiry.step)) = none ↔
      NoneTold s.desk key (s.exchanges qs) := by
  induction qs generalizing s with
  | nil =>
    constructor
    · intro _ x hx
      cases hx
    · intro _
      rfl
  | cons q rest ih =>
    have hrest := ih (s := (s.step q.step).2)
    rw [desk_step_inquiry] at hrest
    have hfirst : lastWrite? key (s.write? q.step).toList = none ↔
        ∀ w, q.Tells s.desk (s.envelope q) w → w.key ≠ key := by
      simp only [lastWrite?_eq_none_iff, Option.mem_toList, tells_iff]
    rw [writes_inquiries, lastWrite?_append, Option.or_eq_none_iff, hrest, hfirst,
      Session.exchanges, noneTold_cons, and_comm]

theorem lastWrite?_of_told {s : Session Memory} {qs : List Inquiry} {key : String}
    {earlier since : List (Inquiry × Envelope)} {x : Inquiry × Envelope} {w : Write}
    (hsplit : s.exchanges qs = earlier ++ x :: since) (htold : x.1.Tells s.desk x.2 w)
    (hkey : w.key = key) (hsince : NoneTold s.desk key since) :
    lastWrite? key (s.writes (qs.map Inquiry.step)) = some w := by
  induction qs generalizing s earlier with
  | nil => cases earlier <;> cases hsplit
  | cons q rest ih =>
    rw [writes_inquiries, lastWrite?_append]
    cases earlier with
    | nil =>
      obtain ⟨rfl, rfl⟩ := List.cons.inj hsplit
      rw [← desk_step_inquiry s q] at hsince
      dsimp only at htold
      rw [lastWrite?_eq_none_iff_noneTold.mpr hsince, tells_iff.mp htold]
      simp [lastWrite?, hkey]
    | cons y earlier =>
      obtain ⟨-, hrest⟩ := List.cons.inj hsplit
      rw [← desk_step_inquiry s q] at htold hsince
      rw [ih hrest htold hsince]
      rfl

/-! ## Reading -/

theorem run_of_lookup {d : Desk} {request : Request} {key : String}
    (h : d.lookup? request = some key) (r : Relay Memory) (now : Int) (answer : Rpc.Answer) :
    d.run r request now answer =
      (.ok (Json.object (lookupMembers key (r.store.find? key) now)), r) := by
  unfold Desk.lookup? at h
  unfold Desk.run
  split at h
  · next e p hpermit hparams =>
    split at h
    · next hop =>
      have hkey := toOption_eq_some_iff.mp h
      simp only [hpermit, hparams, Operation.run, hop, cacheGet, hkey]
      rfl
    · cases h
  · cases h

/-- A permitted read reports what it found, and sends nothing. -/
theorem step_of_lookup {s : Session Memory} {q : Inquiry} {key : String}
    (h : s.desk.lookup? q.request = some key) :
    (s.step q.step).1 =
      { answer := .dispatched
          ((Envelope.ofResult (Json.object
            (lookupMembers key (s.relay.store.find? key) q.now))).output
              q.request.wantsResultsOnly)
        sent := [] } := by
  unfold Inquiry.step
  rw [Session.step_dispatch, run_of_lookup h]
  rfl

theorem member?_status_lookup (key : String) (record? : Option Cache.Record) (now : Int) :
    (Json.object (lookupMembers key record? now)).member? "status" =
      some (.str (Cache.LookupStatus.of record? now).name) := by
  rw [Json.member?_object]
  cases record? with
  | none => rfl
  | some record => rfl

theorem name_lookupStatus (record? : Option Cache.Record) (now : Int) :
    (Cache.LookupStatus.of record? now).name =
      match record? with
      | some record => if now ≤ record.expiresAt then "hit" else "stale"
      | none => "miss" := by
  cases record? with
  | none => rfl
  | some record =>
    unfold Cache.LookupStatus.of Cache.Record.isFresh
    by_cases hfresh : now ≤ record.expiresAt
    · simp [hfresh, Cache.LookupStatus.name]
    · simp [hfresh, Cache.LookupStatus.name]

theorem name_lookupStatus_eq_miss_iff {record? : Option Cache.Record} {now : Int} :
    (Cache.LookupStatus.of record? now).name = "miss" ↔ record? = none := by
  rw [name_lookupStatus]
  cases record? with
  | none => simp
  | some record =>
    dsimp only
    split <;> simp

/-- In a run of requests from an empty memory, a read of a key answers with a miss exactly if no
request before it wrote the key, and otherwise with the value and the expiry of the last write to
it: a hit until the second of expiry, stale from then on.  Nothing is sent for it. -/
theorem direct_read_gives_last_write (desk : Desk) (before later : List Inquiry) (q : Inquiry)
    {key : String} (hread : desk.lookup? q.request = some key) :
    ∃ result,
      ((Session.start desk Memory.empty).run
          ((before ++ q :: later).map Inquiry.step)).1[before.length]? =
        some
          { answer := .dispatched
              ((Envelope.ofResult result).output q.request.wantsResultsOnly)
            sent := [] } ∧
      (result.member? "status" = some (.str "miss") ↔
        NoneTold desk key ((Session.start desk Memory.empty).exchanges before)) ∧
      (NoneTold desk key ((Session.start desk Memory.empty).exchanges before) →
        result = .object [("key", .str key), ("status", .str "miss")]) ∧
      ∀ earlier since x w,
        (Session.start desk Memory.empty).exchanges before = earlier ++ x :: since →
        x.1.Tells desk x.2 w → w.key = key → NoneTold desk key since →
        result = .object
          [("key", .str key),
           ("status", .str
             (if q.now ≤ Cache.expiry w.time w.ttlSeconds then "hit" else "stale")),
           ("value", w.value),
           ("expiresAtUnix", .ofInt (Cache.expiry w.time w.ttlSeconds))] := by
  have hfind := Session.find?_run_empty desk (before.map Inquiry.step) key
  have hdesk := desk_run_inquiries (Session.start desk Memory.empty) before
  have hreport := Session.getElem?_run (Session.start desk Memory.empty)
    (before.map Inquiry.step) (later.map Inquiry.step) q.step
  rw [List.length_map, ← List.map_cons, ← List.map_append] at hreport
  -- The requests before this one matter only through the last write that they made to the key.
  generalize (Session.start desk Memory.empty).run (before.map Inquiry.step) = t at *
  have hlookup : t.2.desk.lookup? q.request = some key := by
    rw [hdesk]
    exact hread
  rw [step_of_lookup hlookup, hfind] at hreport
  have hnone : lastWrite? key ((Session.start desk Memory.empty).writes
      (before.map Inquiry.step)) = none ↔ NoneTold desk key _ := lastWrite?_eq_none_iff_noneTold
  refine ⟨_, hreport, ?_, fun h => ?_, fun earlier since x w hsplit htold hkey hsince => ?_⟩
  · rw [member?_status_lookup, ← hnone, Option.some.injEq, Json.str.injEq,
      name_lookupStatus_eq_miss_iff, Option.map_eq_none_iff]
  · rw [hnone.mpr h]
    rfl
  · have hlast : lastWrite? key ((Session.start desk Memory.empty).writes
        (before.map Inquiry.step)) = some w := lastWrite?_of_told hsplit htold hkey hsince
    rw [hlast]
    unfold lookupMembers
    rw [name_lookupStatus]
    rfl

/-- A value put under the key `7`, to be kept for fifty seconds. -/
def valuePut : Inquiry where
  request :=
    { action := "cachePut"
      params := .object [("key", .str " 7\t"), ("ttl", .ofNat 50), ("value", .bool true)]
      resultsOnly := false }
  now := 0
  answer := .failure "not asked"

/-- A block number asked for under that key, to be kept for two seconds. -/
def blockNumberInquiry (now : Int) (answer : Rpc.Answer) : Inquiry where
  request :=
    { action := "rpc_call_cached"
      params := .object
        [("url", .str "u"), ("method", .str "eth_blockNumber"), ("cacheKey", .str "7"),
         ("ttl", .ofNat 2)]
      resultsOnly := false }
  now := now
  answer := answer

def toldInquiry : Inquiry := blockNumberInquiry 10 (.reply (.okResult "0x2"))

def lostInquiry : Inquiry := blockNumberInquiry 13 (.failure "no route to host")

/-- A read of the key, given as a number. -/
def numberKeyRead : Inquiry where
  request :=
    { action := "cache_get", params := .object [("cacheKey", .ofNat 7)], resultsOnly := true }
  now := 12
  answer := .failure "not asked"

/-- The read finds the block number: neither the value put before it nor the failure after it
counts. -/
theorem number_key_read_finds_call :
    plainDesk.lookup? numberKeyRead.request = some "7" ∧
      ((Session.start plainDesk Memory.empty).run
        ([valuePut, toldInquiry, lostInquiry, numberKeyRead].map Inquiry.step)).1[3]? =
        some
          { answer := .dispatched (.object
              [("key", .str "7"), ("status", .str "hit"),
               ("value", .object [("result", .str "0x2"), ("fetchedAtUnix", .ofInt 10)]),
               ("expiresAtUnix", .ofInt 12)])
            sent := [] } := by
  have hread : plainDesk.lookup? numberKeyRead.request = some "7" := by decide +kernel
  obtain ⟨result, hreport, -, -, hlast⟩ := direct_read_gives_last_write plainDesk
    [valuePut, toldInquiry, lostInquiry] [] numberKeyRead hread
  -- The session before each of the two calls.
  obtain ⟨s, hs⟩ : ∃ s, ((Session.start plainDesk Memory.empty).step valuePut.step).2 = s :=
    ⟨_, rfl⟩
  obtain ⟨t, ht⟩ : ∃ t, (s.step toldInquiry.step).2 = t := ⟨_, rfl⟩
  have hsdesk : s.desk = plainDesk := by rw [← hs, desk_step_inquiry]; rfl
  have htdesk : t.desk = plainDesk := by rw [← ht, desk_step_inquiry, hsdesk]
  have hsplit : (Session.start plainDesk Memory.empty).exchanges
      [valuePut, toldInquiry, lostInquiry] =
        [(valuePut, (Session.start plainDesk Memory.empty).envelope valuePut)] ++
          (toldInquiry, s.envelope toldInquiry) :: [(lostInquiry, t.envelope lostInquiry)] := by
    rw [← ht, ← hs]
    rfl
  have htold : toldInquiry.Tells s.desk (s.envelope toldInquiry)
      { key := "7", value := .object [("result", .str "0x2"), ("fetchedAtUnix", .ofInt 10)],
        ttlSeconds := 2, time := 10 } := by
    rw [tells_iff, ← hs]
    decide +kernel
  have hlost : NoneTold plainDesk "7" [(lostInquiry, t.envelope lostInquiry)] := by
    intro x hx w hw
    obtain rfl := List.mem_singleton.mp hx
    have hnone : t.write? lostInquiry.step = none := by
      rw [← ht, ← hs]
      decide +kernel
    dsimp only at hw
    rw [← htdesk, tells_iff, hnone] at hw
    cases hw
  rw [hsdesk] at htold
  rw [hlast _ _ _ _ hsplit htold rfl hlost] at hreport
  exact ⟨hread, hreport.trans rfl⟩

end Action
end RelayDesk
