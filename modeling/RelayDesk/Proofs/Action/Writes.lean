import RelayDesk.Action.Session
import RelayDesk.Proofs.Cache.Execute

/-!
The writes of a session.  A step has one effect at most: it carries out a call, or it puts a value,
or it leaves the store alone.  The effect is read off the step and the desk before anything is run,
and `store_step` ties the store after the step to it.  Over a whole run the memory then holds, under
each key, the last value written to it and nothing else.
-/

namespace RelayDesk
namespace Action

open Cache (Attempt Memory Outcome Relay Store)

/-- A value put under a key at a time, to be kept for a number of seconds. -/
structure Write where
  key : String
  value : Json
  ttlSeconds : Nat
  time : Int
  deriving DecidableEq, Repr

def Write.record (w : Write) : Cache.Record := .write w.key w.value w.ttlSeconds w.time

@[simp] theorem Write.record_key (w : Write) : w.record.key = w.key := rfl

/-! ## Effects -/

/-- What a step does to the relay. -/
inductive Effect where
  | attempt (x : Attempt)
  | put (w : Write)
  | nothing
  deriving DecidableEq, Repr

/-- The write that the params of a direct write ask for. -/
def writeOfParams? (p : Params) (now : Int) : Option Write := do
  let key ← (p.text keyNames).toOption
  let ttlSeconds ← (← (p.whole? ["ttlSeconds", "ttl"]).toOption)
  let value ← (← (p.value? ["value"]).toOption)
  return { key, value, ttlSeconds, time := now }

theorem toOption_recordOfParams (p : Params) (now : Int) :
    (recordOfParams p now).toOption = (writeOfParams? p now).map Write.record := by
  unfold recordOfParams writeOfParams?
  cases p.text keyNames with
  | error _ => rfl
  | ok key =>
    cases p.whole? ["ttlSeconds", "ttl"] with
    | error _ => rfl
    | ok ttl? =>
      cases ttl? with
      | none => rfl
      | some ttl =>
        cases p.value? ["value"] with
        | error _ => rfl
        | ok value? => cases value? <;> rfl

theorem recordOfParams_eq_ok_iff {p : Params} {now : Int} {record : Cache.Record} :
    recordOfParams p now = .ok record ↔
      ∃ w, writeOfParams? p now = some w ∧ w.record = record := by
  rw [← Option.map_eq_some_iff, ← toOption_recordOfParams]
  cases recordOfParams p now <;> simp [Except.toOption]

def Operation.effect (op : Operation) (p : Params) (now : Int) (answer : Rpc.Answer) : Effect :=
  match op with
  | .rpcCallCached =>
    match callOfParams p with
    | .ok call => .attempt { call, now, answer }
    | .error _ => .nothing
  | .cachePut =>
    match writeOfParams? p now with
    | some w => .put w
    | none => .nothing
  | _ => .nothing

def Desk.effect (d : Desk) (request : Request) (now : Int) (answer : Rpc.Answer) : Effect :=
  match d.permit request.action, Params.ofJson request.params with
  | .ok e, .ok p => e.action.effect p now answer
  | _, _ => .nothing

/-- The key that a requested action looks up without writing, if it looks one up. -/
def Desk.lookup? (d : Desk) (request : Request) : Option String :=
  match d.permit request.action, Params.ofJson request.params with
  | .ok e, .ok p =>
    match e.action with
    | .cacheGet => (p.text keyNames).toOption
    | _ => none
  | _, _ => none

/-- What a step does at a desk. -/
def Step.effect (d : Desk) : Step → Effect
  | .call c now answer => .attempt { call := c, now, answer }
  | .dispatch request now answer => d.effect request now answer
  | .put key value ttlSeconds now => .put { key, value, ttlSeconds, time := now }
  | .get _ _ => .nothing
  | .configure _ _ => .nothing

def actionResult : Except Rpc.Failure Outcome → Except Fault Json
  | .ok outcome => .ok outcome.toJson
  | .error failure => .error (.rpc failure)

/-- The answer of a step that carries out a call: the result itself, or the envelope around it. -/
def Step.shown (st : Step) (result : Except Rpc.Failure Outcome) : StepAnswer :=
  match st with
  | .dispatch request _ _ =>
    .dispatched ((Envelope.of (actionResult result)).output request.wantsResultsOnly)
  | _ => .called result

/-- The result of an action that puts a value. -/
def Write.confirmation (w : Write) : Json :=
  Json.object [("key", .str w.key), ("expiresAtUnix", .ofInt w.record.expiresAt)]

/-- The answer of a step that puts a value: the record, or the envelope around its confirmation. -/
def Step.confirmed (st : Step) (w : Write) : StepAnswer :=
  match st with
  | .dispatch request _ _ =>
    .dispatched ((Envelope.of (.ok w.confirmation)).output request.wantsResultsOnly)
  | _ => .put (.ok w.record)

section Running

variable {σ : Type} [Store σ]

/-- What a direct read answers to what was found. -/
def lookupResult (p : Params) (now : Int)
    (found? : Option (Except Cache.StoreFault (Option Cache.Record))) : Except Fault Json := do
  let key ← (p.text keyNames).mapError .validation
  let record? ← (found?.getD (.ok none)).mapError .store
  return Json.object (lookupMembers key record? now)

theorem cacheGet_eq (r : Relay σ) (p : Params) (now : Int) :
    cacheGet r p now =
      lookupResult p now ((p.text keyNames).toOption.map (Store.get r.store)) := by
  unfold cacheGet lookupResult
  cases p.text keyNames with
  | error _ => rfl
  | ok key => rfl

theorem Desk.run_of_attempt {d : Desk} {r : Relay σ} {request : Request} {now : Int}
    {answer : Rpc.Answer} {x : Attempt} (h : d.effect request now answer = .attempt x) :
    d.run r request now answer =
      (actionResult (r.execute d.config x.call x.now x.answer).1,
        (r.execute d.config x.call x.now x.answer).2) := by
  unfold effect at h
  unfold run
  split at h
  · next e p hpermit hparams =>
    rw [hpermit, hparams]
    unfold Operation.effect at h
    split at h
    · next hop =>
      split at h
      · next call hcall =>
        obtain rfl := Effect.attempt.inj h
        simp only [Operation.run, hop, rpcCallCached, hcall]
        split <;> next heq => simp [heq, actionResult]
      · cases h
    · split at h <;> cases h
    · cases h
  · cases h

/-- An action without an effect answers from what it looks up, and leaves the relay as it is. -/
theorem Desk.run_of_nothing {d : Desk} {request : Request} {now : Int} {answer : Rpc.Answer}
    (h : d.effect request now answer = .nothing) :
    ∃ respond : Option (Except Cache.StoreFault (Option Cache.Record)) → Except Fault Json,
      ∀ {σ : Type} [Store σ] (r : Relay σ), d.run r request now answer =
        (respond ((d.lookup? request).map (Store.get r.store)), r) := by
  unfold effect at h
  unfold run lookup?
  cases hpermit : d.permit request.action with
  | error fault => exact ⟨fun _ => .error fault, fun _ => rfl⟩
  | ok e =>
    cases hparams : Params.ofJson request.params with
    | error cause => exact ⟨fun _ => .error (.validation cause), fun _ => rfl⟩
    | ok p =>
      rw [hpermit, hparams] at h
      dsimp only
      cases hop : e.action with
      | rpcCallCached =>
        cases hcall : callOfParams p with
        | ok call => simp [hop, Operation.effect, hcall] at h
        | error cause =>
          exact ⟨fun _ => .error (.validation cause), fun _ => by
            simp [Operation.run, rpcCallCached, hcall]⟩
      | cachePut =>
        cases hr : recordOfParams p now with
        | ok record =>
          obtain ⟨w, hw, -⟩ := recordOfParams_eq_ok_iff.mp hr
          simp [hop, Operation.effect, hw] at h
        | error cause =>
          exact ⟨fun _ => .error (.validation cause), fun _ => by
            simp [Operation.run, cachePut, hr]⟩
      | cacheGet => exact ⟨lookupResult p now, fun r => by rw [Operation.run, cacheGet_eq]⟩
      | bridgeQuote => exact ⟨fun _ => Action.bridgeQuote d.tables p, fun _ => rfl⟩
      | swapQuote => exact ⟨fun _ => Action.swapQuote d.tables p, fun _ => rfl⟩
      | methodPolicy => exact ⟨fun _ => (Action.methodPolicy p).mapError .validation, fun _ => rfl⟩
      | listActions => exact ⟨fun _ => .ok Action.listActions, fun _ => rfl⟩

theorem Desk.run_of_put {d : Desk} {r : Relay σ} {request : Request} {now : Int}
    {answer : Rpc.Answer} {w : Write} {store : σ} (h : d.effect request now answer = .put w)
    (hput : Store.put r.store w.record = .ok store) :
    d.run r request now answer = (.ok w.confirmation, { r with store }) := by
  unfold effect at h
  unfold run
  split at h
  · next e p hpermit hparams =>
    rw [hpermit, hparams]
    unfold Operation.effect at h
    split at h
    · split at h <;> cases h
    · next hop =>
      split at h
      · next w' hw =>
        obtain rfl := Effect.put.inj h
        have hrecord := recordOfParams_eq_ok_iff.mpr ⟨w', hw, rfl⟩
        simp only [Operation.run, hop, cachePut, hrecord, hput]
        rfl
      · cases h
    · cases h
  · cases h

end Running

/-! ## Steps -/

namespace Session

section Stores

variable {σ : Type} [Store σ]

def attempt (s : Session σ) (x : Attempt) : Except Rpc.Failure Outcome × Relay σ :=
  s.relay.clean.execute s.desk.config x.call x.now x.answer

theorem attempt_carries (s : Session σ) (x : Attempt) :
    Relay.Carries s.desk.config x s.relay.clean (s.attempt x) :=
  Relay.execute_carries s.desk.config x s.relay.clean

/-- A requested action is run from a clean record of requests. -/
theorem step_dispatch (s : Session σ) (request : Request) (now : Int) (answer : Rpc.Answer) :
    s.step (.dispatch request now answer) =
      ({ answer := .dispatched ((Envelope.of
            (s.desk.run s.relay.clean request now answer).1).output request.wantsResultsOnly),
         sent := (s.desk.run s.relay.clean request now answer).2.sent.reverse },
        { s with relay := (s.desk.run s.relay.clean request now answer).2 }) := by
  simp only [step, perform, Desk.dispatch, Desk.answer, Relay.clean]

/-- A step whose effect is a call carries it out, shows its result and reports its requests. -/
theorem step_of_attempt {s : Session σ} {st : Step} {x : Attempt}
    (h : st.effect s.desk = .attempt x) :
    s.step st =
      ({ answer := st.shown (s.attempt x).1, sent := (s.attempt x).2.sent.reverse },
        { s with relay := (s.attempt x).2 }) := by
  cases st with
  | call c now answer =>
    obtain rfl := Effect.attempt.inj h
    rfl
  | dispatch request now answer =>
    have hdesk : s.desk.effect request now answer = _ := h
    rw [step_dispatch, Desk.run_of_attempt hdesk]
    simp only [attempt, Step.shown]
  | put key value ttlSeconds now => cases h
  | get key now => cases h
  | configure config blocked => cases h

/-- A step whose effect is a put confirms it and sends nothing, if the store takes the record. -/
theorem step_of_put {s : Session σ} {st : Step} {w : Write} {store : σ}
    (h : st.effect s.desk = .put w) (hput : Store.put s.relay.store w.record = .ok store) :
    s.step st =
      ({ answer := st.confirmed w, sent := [] },
        { s with relay := { s.relay.clean with store } }) := by
  cases st with
  | call c now answer => cases h
  | dispatch request now answer =>
    have hdesk : s.desk.effect request now answer = _ := h
    have hclean : Store.put s.relay.clean.store w.record = .ok store := hput
    rw [step_dispatch, Desk.run_of_put hdesk hclean]
    rfl
  | put key value ttlSeconds now =>
    obtain rfl := Effect.put.inj h
    have hrecord : Store.put s.relay.store (.write key value ttlSeconds now) = .ok store := hput
    simp only [step, perform, hrecord]
    rfl
  | get key now => cases h
  | configure config blocked => cases h

theorem store_step_of_nothing {s : Session σ} {st : Step} (h : st.effect s.desk = .nothing) :
    (s.step st).2.relay.store = s.relay.store := by
  cases st with
  | call c now answer => cases h
  | dispatch request now answer =>
    have hdesk : s.desk.effect request now answer = _ := h
    obtain ⟨respond, hrespond⟩ := Desk.run_of_nothing hdesk
    rw [step_dispatch, hrespond]
    rfl
  | put key value ttlSeconds now => cases h
  | get key now => rfl
  | configure config blocked => rfl

/-- Only a change of the set-up changes the desk. -/
theorem desk_step {s : Session σ} {st : Step} (h : ∀ config blocked, st ≠ .configure config blocked) :
    (s.step st).2.desk = s.desk := by
  cases st with
  | put key value ttlSeconds now =>
    simp only [step, perform]
    split <;> rfl
  | dispatch request now answer => rw [step_dispatch]
  | configure config blocked => exact absurd rfl (h config blocked)
  | _ => rfl

/-- A run without a change of the set-up keeps the desk. -/
theorem desk_run {s : Session σ} {steps : List Step}
    (h : ∀ st ∈ steps, ∀ config blocked, st ≠ .configure config blocked) :
    (s.run steps).2.desk = s.desk := by
  induction steps generalizing s with
  | nil => rfl
  | cons st rest ih =>
    show ((s.step st).2.run rest).2.desk = s.desk
    have hrest := ih (s := (s.step st).2) fun st' hst' => h st' (List.mem_cons_of_mem _ hst')
    rw [hrest]
    exact desk_step (h st List.mem_cons_self)

/-- The report of a step within a run is the report of the step alone, after those before it. -/
theorem getElem?_run (s : Session σ) (xs ys : List Step) (st : Step) :
    (s.run (xs ++ st :: ys)).1[xs.length]? = some ((s.run xs).2.step st).1 := by
  induction xs generalizing s with
  | nil => rfl
  | cons x rest ih => exact ih (s.step x).2

theorem run_cons (s : Session σ) (st : Step) (rest : List Step) :
    s.run (st :: rest) =
      ((s.step st).1 :: ((s.step st).2.run rest).1, ((s.step st).2.run rest).2) := rfl

theorem run_append (s : Session σ) (xs ys : List Step) :
    s.run (xs ++ ys) =
      ((s.run xs).1 ++ ((s.run xs).2.run ys).1, ((s.run xs).2.run ys).2) := by
  induction xs generalizing s with
  | nil => rfl
  | cons st rest ih =>
    simp only [List.cons_append, run, ih]

end Stores

theorem store_step_of_put {s : Session Memory} {st : Step} {w : Write}
    (h : st.effect s.desk = .put w) :
    (s.step st).2.relay.store = s.relay.store.insert w.record := by
  rw [step_of_put h rfl]

end Session

/-! ## Writes -/

/-- The write of a call that came to `result`.  Only a result that was sent for is kept. -/
def keptWrite? (config : Cache.Config) (x : Attempt) :
    Except Rpc.Failure Outcome → Option Write
  | .ok o =>
    if o.source.isReplied then
      some { key := o.key, value := Relay.keptValue o.result x.now,
             ttlSeconds := (x.call.policy config).ttlSeconds, time := x.now }
    else none
  | .error _ => none

theorem keptWrite?_eq_some_iff {config : Cache.Config} {x : Attempt}
    {result : Except Rpc.Failure Cache.Outcome} {w : Write} :
    keptWrite? config x result = some w ↔
      ∃ o, result = .ok o ∧ o.source.isReplied = true ∧
        { key := o.key, value := Relay.keptValue o.result x.now,
          ttlSeconds := (x.call.policy config).ttlSeconds, time := x.now } = w := by
  cases result with
  | error failure =>
    constructor
    · intro h
      cases h
    · rintro ⟨o, ho, -⟩
      cases ho
  | ok o =>
    show (if o.source.isReplied = true then some _ else none) = some w ↔ _
    constructor
    · intro h
      by_cases hreplied : o.source.isReplied = true
      · rw [if_pos hreplied] at h
        exact ⟨o, rfl, hreplied, Option.some.inj h⟩
      · rw [if_neg hreplied] at h
        cases h
    · rintro ⟨o', ho, hreplied, rfl⟩
      obtain rfl := Except.ok.inj ho
      rw [if_pos hreplied]

/-- The write that a step makes. -/
def Session.write? (s : Session Memory) (st : Step) : Option Write :=
  match st.effect s.desk with
  | .attempt x => keptWrite? s.desk.config x (s.attempt x).1
  | .put w => some w
  | .nothing => none

def Session.writes (s : Session Memory) : List Step → List Write
  | [] => []
  | st :: rest => (s.write? st).toList ++ (s.step st).2.writes rest

/-- A write of a run is made by one of its steps, after those before it. -/
theorem Session.exists_of_mem_writes {s : Session Memory} {steps : List Step} {w : Write}
    (h : w ∈ s.writes steps) :
    ∃ earlier st later, steps = earlier ++ st :: later ∧
      (s.run earlier).2.write? st = some w := by
  induction steps generalizing s with
  | nil => cases h
  | cons st rest ih =>
    rcases List.mem_append.mp h with hfirst | hrest
    · exact ⟨[], st, rest, rfl, Option.mem_toList.mp hfirst⟩
    · obtain ⟨earlier, st', later, rfl, hwrite⟩ := ih hrest
      exact ⟨st :: earlier, st', later, rfl, hwrite⟩

def replay (m : Memory) (ws : List Write) : Memory :=
  ws.foldl (fun m w => m.insert w.record) m

/-- The last of the writes to a key. -/
def lastWrite? (key : String) (ws : List Write) : Option Write :=
  ws.reverse.find? fun w => w.key == key

theorem lastWrite?_cons (key : String) (w : Write) (ws : List Write) :
    lastWrite? key (w :: ws) =
      (lastWrite? key ws).or (if w.key = key then some w else none) := by
  unfold lastWrite?
  rw [List.reverse_cons, List.find?_append]
  by_cases h : w.key = key <;> simp [h]

theorem lastWrite?_append (key : String) (earlier later : List Write) :
    lastWrite? key (earlier ++ later) = (lastWrite? key later).or (lastWrite? key earlier) := by
  unfold lastWrite?
  rw [List.reverse_append, List.find?_append]

theorem lastWrite?_eq_none_iff {key : String} {ws : List Write} :
    lastWrite? key ws = none ↔ ∀ w ∈ ws, w.key ≠ key := by
  unfold lastWrite?
  simp

/-- The last write to a key is one of the writes to it, and no later one is. -/
theorem lastWrite?_eq_some_iff {key : String} {ws : List Write} {w : Write} :
    lastWrite? key ws = some w ↔
      w.key = key ∧ ∃ earlier later, ws = earlier ++ w :: later ∧ ∀ v ∈ later, v.key ≠ key := by
  unfold lastWrite?
  rw [List.find?_eq_some_iff_append]
  constructor
  · rintro ⟨hkey, as, bs, hws, has⟩
    refine ⟨by simpa using hkey, bs.reverse, as.reverse, ?_, fun v hv => ?_⟩
    · rw [← List.reverse_reverse ws, hws]
      simp
    · simpa using has v (List.mem_reverse.mp hv)
  · rintro ⟨hkey, earlier, later, rfl, hlater⟩
    refine ⟨by simpa using hkey, later.reverse, earlier.reverse, by simp, fun v hv => ?_⟩
    simpa using hlater v (List.mem_reverse.mp hv)

/-- After some writes a key has the record of the last write to it, or what it had before. -/
theorem find?_replay (m : Memory) (ws : List Write) (key : String) :
    (replay m ws).find? key = ((lastWrite? key ws).map Write.record).or (m.find? key) := by
  induction ws generalizing m with
  | nil => rfl
  | cons w rest ih =>
    show (replay (m.insert w.record) rest).find? key = _
    -- The first write shows only where no later one has its key.
    rw [ih, lastWrite?_cons, Cache.Memory.find?_insert, Write.record_key]
    cases lastWrite? key rest with
    | some v => rfl
    | none => by_cases h : w.key = key <;> simp [h]

theorem store_of_carries {config : Cache.Config} {x : Attempt} {r : Relay Memory}
    {p : Except Rpc.Failure Outcome × Relay Memory} (h : Relay.Carries config x r p) :
    p.2.store = replay r.store (keptWrite? config x p.1).toList := by
  cases h with
  | hit => rfl
  | @kept text source posted answered label =>
    have hreplied : source.isReplied = true := by
      rw [label]
      split <;> rfl
    simp only [keptWrite?, hreplied, if_true]
    rfl
  | bridged => rfl
  | failed => rfl

namespace Session

/-- A step changes the memory by its write and by nothing else. -/
theorem store_step (s : Session Memory) (st : Step) :
    (s.step st).2.relay.store = replay s.relay.store (s.write? st).toList := by
  unfold write?
  cases h : st.effect s.desk with
  | attempt x =>
    rw [step_of_attempt h, ← Relay.clean_store s.relay]
    exact store_of_carries (s.attempt_carries x)
  | put w => exact store_step_of_put h
  | nothing => exact store_step_of_nothing h

/-- The memory after a run is the memory before it with the writes of the run. -/
theorem store_run (s : Session Memory) (steps : List Step) :
    (s.run steps).2.relay.store = replay s.relay.store (s.writes steps) := by
  induction steps generalizing s with
  | nil => rfl
  | cons st rest ih =>
    show ((s.step st).2.run rest).2.relay.store = _
    rw [ih, store_step]
    simp only [writes, replay, List.foldl_append]

/-- A run that starts from an empty memory leaves under each key the record of the last write to
it. -/
theorem find?_run_empty (desk : Desk) (steps : List Step) (key : String) :
    ((start desk Memory.empty).run steps).2.relay.store.find? key =
      (lastWrite? key ((start desk Memory.empty).writes steps)).map Write.record := by
  rw [store_run, find?_replay]
  exact Option.or_none

end Session

end Action
end RelayDesk
