import RelayDesk.Proofs.Action.Provenance

/-!
The discipline of calls.  Over a run of calls on one desk each call sends one request or none, under
ids that count up from one, and touches at most the record of its own key.
-/

namespace RelayDesk
namespace Action

open Cache (Attempt Memory Outcome Post Record Relay Store)

/-- The step that carries out a call directly. -/
def callStep (x : Attempt) : Step := .call x.call x.now x.answer

/-- The memory holds a result under the key that is fresh at `now`. -/
def HoldsFreshResult (m : Memory) (key : String) (now : Int) : Prop :=
  ∃ record text, m.find? key = some record ∧
    record.value.member? "result" = some (.str text) ∧ now ≤ record.expiresAt

theorem holdsFresh_iff_memory {r : Relay Memory} {key : String} {now : Int} :
    r.HoldsFresh key now ↔ HoldsFreshResult r.store key now := by
  unfold Relay.HoldsFresh HoldsFreshResult
  simp only [Relay.load_memory_iff, result?_eq_some_iff, Record.isFresh, decide_eq_true_eq,
    and_assoc]

/-- The record that a call keeps for a result that it was sent. -/
def refreshedRecord (config : Cache.Config) (x : Attempt) (text : String) : Record where
  key := x.call.key
  value := .object [("result", .str text), ("fetchedAtUnix", .ofInt x.now)]
  expiresAt := Cache.expiry x.now (x.call.policy config).ttlSeconds

/-- What one call may do between two memories, when it gave `result` and sent `sent`. -/
structure Disciplined (config : Cache.Config) (x : Attempt) (before : Memory)
    (result : Except Rpc.Failure Outcome) (sent : List Post) (after : Memory) : Prop where
  at_most_one : sent.length ≤ 1
  /-- Without strict mode a fresh result makes a request needless, and nothing else does. -/
  silent_iff : sent = [] ↔
    config.strictMode = false ∧ HoldsFreshResult before x.call.key x.now
  /-- Only a result that was sent for changes the memory. -/
  answered_of_changed : after ≠ before → sent ≠ [] ∧ ∃ text, x.answer.result = .ok text
  /-- Such a result is kept under the call's key and changes nothing else. -/
  kept : ∀ text, sent ≠ [] → x.answer.result = .ok text → ∀ key,
    after.find? key =
      if x.call.key = key then some (refreshedRecord config x text) else before.find? key
  unchanged_of_cached : ∀ o, result = .ok o →
    o.source = .cacheHit ∨ o.source = .stale → after = before
  unchanged_of_error : ∀ failure, result = .error failure → after = before
  refresh_iff : (∃ o, result = .ok o ∧ o.source = .cacheRefresh) ↔
    config.strictMode = true ∧ HoldsFreshResult before x.call.key x.now ∧
      ∃ text, x.answer.result = .ok text
  stale_of_allowed : ∀ o, result = .ok o → o.source = .stale →
    (x.call.policy config).allowStaleFallback = true ∧ sent ≠ [] ∧
      ∃ failure, x.answer.result = .error failure ∧
        (failure.kind = .rateLimited ∨ failure.kind = .unavailable)
  /-- A failure is given back as it was classified, and only when a request was sent. -/
  error_of_answer : ∀ failure, result = .error failure →
    sent ≠ [] ∧ x.answer.result = .error failure

section Ends

variable {config : Cache.Config} {x : Attempt} {r : Relay Memory}
  {p : Except Rpc.Failure Outcome × Relay Memory}

theorem silent_iff_memory :
    r.Silent config x ↔ config.strictMode = false ∧ HoldsFreshResult r.store x.call.key x.now := by
  unfold Relay.Silent
  rw [holdsFresh_iff_memory]

theorem sent_eq_nil_iff (hclean : r.sent = []) (h : Relay.Carries config x r p) :
    p.2.sent.reverse = [] ↔ r.Silent config x := by
  rcases h.sent with ⟨hsilent, hsame⟩ | ⟨hposted, -, hsent⟩
  · simp [hsame, hclean, hsilent]
  · simp [hsent, hposted]

theorem disciplined_of_carries (hclean : r.sent = [])
    (h : Relay.Carries config x r p) :
    Disciplined config x r.store p.1 p.2.sent.reverse p.2.store where
  at_most_one := by
    rcases h.sent with ⟨-, hsame⟩ | ⟨-, -, hsent⟩
    · simp [hsame, hclean]
    · simp [hsent, hclean]
  silent_iff := (sent_eq_nil_iff hclean h).trans silent_iff_memory
  answered_of_changed hne := by
    have hsent := sent_eq_nil_iff hclean h
    cases h with
    | kept posted answered label => exact ⟨mt hsent.mp posted, _, answered⟩
    | _ => exact absurd rfl hne
  kept text hne htext key := by
    have hsent := sent_eq_nil_iff hclean h
    cases h with
    | hit lenient found fresh => exact absurd (hsent.mpr ⟨lenient, _, _, found, fresh⟩) hne
    | kept posted answered label =>
      obtain rfl := Except.ok.inj (htext.symm.trans answered)
      exact Cache.Memory.find?_insert r.store _ key
    | bridged posted answered =>
      rw [answered] at htext
      cases htext
    | failed posted answered =>
      rw [answered] at htext
      cases htext
  unchanged_of_cached o ho hsource := by
    cases h with
    | kept posted answered label =>
      cases ho
      split at label <;> simp [label] at hsource
    | _ => rfl
  unchanged_of_error failure hfailure := by
    cases h with
    | kept => cases hfailure
    | _ => rfl
  refresh_iff := by
    rw [← holdsFresh_iff_memory]
    constructor
    · rintro ⟨o, ho, hsource⟩
      cases h with
      | kept posted answered label =>
        cases ho
        by_cases hfresh : r.HoldsFresh x.call.key x.now
        · have hstrict : config.strictMode = true := by
            cases hmode : config.strictMode with
            | true => rfl
            | false => exact absurd ⟨hmode, hfresh⟩ posted
          exact ⟨hstrict, hfresh, _, answered⟩
        · rw [if_neg hfresh] at label
          cases label.symm.trans hsource
      | hit | bridged =>
        cases ho
        cases hsource
      | failed => cases ho
    · rintro ⟨hstrict, hfresh, text, htext⟩
      cases h with
      | hit lenient =>
        rw [lenient] at hstrict
        cases hstrict
      | kept posted answered label =>
        rw [if_pos hfresh] at label
        exact ⟨_, rfl, label⟩
      | bridged posted answered | failed posted answered =>
        rw [answered] at htext
        cases htext
  stale_of_allowed o ho hsource := by
    have hsent := sent_eq_nil_iff hclean h
    cases h with
    | hit =>
      cases ho
      cases hsource
    | kept posted answered label =>
      cases ho
      split at label <;> cases label.symm.trans hsource
    | bridged posted answered found bridge =>
      simp only [Relay.bridges, Bool.and_eq_true] at bridge
      exact ⟨bridge.1.1, mt hsent.mp posted, _, answered,
        Rpc.FailureKind.isStaleEligible_iff.mp bridge.1.2⟩
    | failed => cases ho
  error_of_answer failure hfailure := by
    have hsent := sent_eq_nil_iff hclean h
    cases h with
    | failed posted answered =>
      cases hfailure
      exact ⟨mt hsent.mp posted, answered⟩
    | hit | kept | bridged => cases hfailure

end Ends

/-! ## Runs of calls -/

/-- The calls one after the other on a desk with this memory. -/
def runCalls (desk : Desk) (store : Memory) (xs : List Attempt) : List Report × Session Memory :=
  (Session.start desk store).run (xs.map callStep)

section Numbering

variable {σ : Type} [Store σ]

theorem sent_callStep (s : Session σ) (x : Attempt) :
    ((s.step (callStep x)).1.sent = [] ∧
        (s.step (callStep x)).2.relay.nextId = s.relay.nextId) ∨
      ((s.step (callStep x)).1.sent =
          [{ url := x.call.url, request := x.call.request s.relay.nextId }] ∧
        (s.step (callStep x)).2.relay.nextId = s.relay.nextId + 1) := by
  have heffect : Step.effect s.desk (callStep x) = .attempt x := rfl
  rw [Session.step_of_attempt heffect]
  rcases (s.attempt_carries x).sent with ⟨-, hsame⟩ | ⟨-, hnext, hsent⟩
  · left
    simp [hsame]
  · right
    simp [hsent, hnext]

/-- The requests of a run of calls are numbered one after the other from the next id on. -/
theorem ids_run (s : Session σ) (xs : List Attempt) :
    (((s.run (xs.map callStep)).1.flatMap Report.sent).map fun p => p.request.id) =
      (List.range' s.relay.nextId
        ((s.run (xs.map callStep)).1.flatMap Report.sent).length).map .number := by
  induction xs generalizing s with
  | nil => rfl
  | cons x rest ih =>
    have hrest := ih (s.step (callStep x)).2
    simp only [List.map_cons, Session.run, List.flatMap_cons, List.map_append, List.length_append]
    rw [hrest]
    rcases sent_callStep s x with ⟨hsent, hnext⟩ | ⟨hsent, hnext⟩
    · simp [hsent, hnext]
    · rw [hsent, hnext, List.length_singleton, Nat.add_comm 1, List.range'_succ]
      rfl

theorem length_run (s : Session σ) (steps : List Step) :
    (s.run steps).1.length = steps.length := by
  induction steps generalizing s with
  | nil => rfl
  | cons st rest ih =>
    simp only [Session.run, List.length_cons, ih]

theorem desk_run (s : Session σ) (xs : List Attempt) :
    (s.run (xs.map callStep)).2.desk = s.desk := by
  apply Session.desk_run
  intro st hst config blocked h
  obtain ⟨x, -, rfl⟩ := List.mem_map.mp hst
  cases h

end Numbering

/-- Over any run of calls on one desk, whatever the memory holds at first, every call is disciplined
between the memory that the calls before it left and the one that it leaves, and the requests of the
run carry the ids 1, 2, 3 and so on. -/
theorem calls_disciplined (desk : Desk) (store : Memory) (before after : List Attempt)
    (x : Attempt) :
    (∃ result sent,
      (runCalls desk store (before ++ x :: after)).1[before.length]? =
        some { answer := .called result, sent } ∧
      Disciplined desk.config x (runCalls desk store before).2.relay.store result sent
        (runCalls desk store (before ++ [x])).2.relay.store) ∧
    (((runCalls desk store (before ++ x :: after)).1.flatMap Report.sent).map
        fun p => p.request.id) =
      (List.range' 1
        ((runCalls desk store (before ++ x :: after)).1.flatMap Report.sent).length).map
        .number := by
  refine ⟨?_, ids_run (Session.start desk store) (before ++ x :: after)⟩
  -- The calls before this one matter only through the session that they leave.
  unfold runCalls
  generalize hs : ((Session.start desk store).run (before.map callStep)).2 = s
  have hdesk : s.desk = desk := by
    rw [← hs]
    exact desk_run (Session.start desk store) before
  refine ⟨(s.attempt x).1, (s.attempt x).2.sent.reverse, ?_, ?_⟩
  · have hlength : before.length =
        ((Session.start desk store).run (before.map callStep)).1.length := by
      rw [length_run, List.length_map]
    rw [List.map_append, Session.run_append, hs, hlength, List.getElem?_append_right (Nat.le_refl _),
      Nat.sub_self]
    rfl
  · rw [List.map_append, Session.run_append, hs]
    have hcarries := s.attempt_carries x
    rw [hdesk] at hcarries
    exact disciplined_of_carries (r := s.relay.clean) rfl hcarries

end Action
end RelayDesk
