import RelayDesk.Proofs.Action.Writes

/-!
Where a cached result comes from, and how old it is.  The memory holds the last write of each key,
so a result that a call gives without a reply of its own is the one that was written last, and the
windows of ages that a record passes bound how long ago that was.
-/

namespace RelayDesk
namespace Action

open Cache (Attempt Memory Record Relay)

theorem result?_eq_some_iff {record : Record} {text : String} :
    record.result? = some text ↔ record.value.member? "result" = some (.str text) := by
  unfold Record.result?
  split
  · next s hs => simp [hs]
  · next hne =>
    constructor
    · intro h
      cases h
    · intro h
      exact absurd h (hne text)

section Run

variable {desk : Desk} {before : List Step} {reports : List Report} {s : Session Memory}

/-- After a run from an empty memory, a look finds the last write to the key if that write put a
result, and nothing otherwise. -/
theorem load_after_run (hrun : (Session.start desk Memory.empty).run before = (reports, s))
    {key text : String} {record : Record} :
    s.relay.clean.load key = some (record, text) ↔
      ∃ w, lastWrite? key ((Session.start desk Memory.empty).writes before) = some w ∧
        w.value.member? "result" = some (.str text) ∧ w.record = record := by
  have hfind := Session.find?_run_empty desk before key
  rw [hrun] at hfind
  rw [Relay.load_memory_iff, Relay.clean_store, hfind, Option.map_eq_some_iff]
  constructor
  · rintro ⟨⟨w, hlast, rfl⟩, htext⟩
    exact ⟨w, hlast, result?_eq_some_iff.mp htext, rfl⟩
  · rintro ⟨w, hlast, htext, rfl⟩
    exact ⟨⟨w, hlast, rfl⟩, result?_eq_some_iff.mpr htext⟩

/-- A step of any run from an empty memory that carries out a call shows that call's result.  A
result that was not sent for is the one that the last write to the call's key put, and no older than
that write's lifetime, with the call's own window added to it for a stale one.  Without strict mode
a last write that is still fresh answers the call and nothing is sent, whatever would have come of
a request. -/
theorem cached_result_of_last_write
    (hrun : (Session.start desk Memory.empty).run before = (reports, s))
    {st : Step} {x : Attempt} (heffect : st.effect s.desk = .attempt x) :
    (s.step st).1.answer = st.shown (s.attempt x).1 ∧
    (∀ o, (s.attempt x).1 = .ok o → o.source = .cacheHit ∨ o.source = .stale →
      o.key = x.call.key ∧
      ∃ w, lastWrite? o.key ((Session.start desk Memory.empty).writes before) = some w ∧
        w.value.member? "result" = some (.str o.result) ∧
        (o.source = .cacheHit → x.now ≤ w.time + w.ttlSeconds) ∧
        (o.source = .stale →
          x.now ≤ w.time + w.ttlSeconds + (x.call.policy s.desk.config).maxStaleSeconds)) ∧
    (s.desk.config.strictMode = false →
      ∀ w text,
        lastWrite? x.call.key ((Session.start desk Memory.empty).writes before) = some w →
        w.value.member? "result" = some (.str text) → w.record.isFresh x.now = true →
        (s.step st).1.sent = [] ∧
          (s.attempt x).1 = .ok { source := .cacheHit, result := text, key := x.call.key }) := by
  rw [Session.step_of_attempt heffect]
  refine ⟨rfl, fun o ho hsource => ?_, fun lenient w text hlast htext hfresh => ?_⟩
  · have hcarries := s.attempt_carries x
    obtain ⟨result, r', hattempt⟩ : ∃ result r', s.attempt x = (result, r') := ⟨_, _, rfl⟩
    rw [hattempt] at hcarries ho
    obtain rfl : result = .ok o := ho
    cases hcarries with
    | hit lenient found fresh =>
      obtain ⟨w, hlast, htext, rfl⟩ := (load_after_run hrun).mp found
      refine ⟨rfl, w, hlast, htext, fun _ => Record.le_of_isFresh_write fresh, fun h => ?_⟩
      cases h
    | kept posted answered label =>
      split at label <;> simp [label] at hsource
    | bridged posted answered found bridge =>
      obtain ⟨w, hlast, htext, rfl⟩ := (load_after_run hrun).mp found
      simp only [Relay.bridges, Bool.and_eq_true] at bridge
      refine ⟨rfl, w, hlast, htext, fun h => ?_, fun _ =>
        Record.le_of_isWithinWindow_write bridge.2⟩
      cases h
  · have found := (load_after_run hrun).mpr ⟨w, hlast, htext, rfl⟩
    have hexecute := Relay.execute_of_fresh lenient found hfresh
    show (s.attempt x).2.sent.reverse = [] ∧ _
    unfold Session.attempt
    rw [hexecute]
    exact ⟨rfl, rfl⟩

end Run

/-- A desk without quotes that sends a request for every call until its set-up changes. -/
def strictDesk : Desk where
  config := { strictMode := true, allowStaleFallback := true }
  tables := { bridges := [], swaps := [] }
  blocked := []

/-- A result put twice under one key, the second time to be kept from second 5 to second 15, and a
set-up without strict mode in between. -/
def twoPuts : List Step :=
  [.put "k" (.object [("result", .str "a")]) 50 0, .configure .default [],
   .put "k" (.object [("result", .str "b")]) 10 5]

/-- A gas price asked for under that key of a node that is over its limit. -/
def limitedCall (now : Int) : Attempt where
  call := { url := "u", method := "eth_gasPrice", params := .null, cacheKey := some " k " }
  now := now
  answer := .reply { status := 429, body := "" }

/-- At second 30 the second put stands in, thirty seconds after it expired at most; at second 12 it
answers without a request. -/
theorem second_put_answers :
    (∃ w, lastWrite? "k" ((Session.start strictDesk Memory.empty).writes twoPuts) = some w ∧
      w.value.member? "result" = some (.str "b") ∧ (30 : Int) ≤ w.time + w.ttlSeconds + 30) ∧
    (((Session.start strictDesk Memory.empty).run twoPuts).2.step
      (.call (limitedCall 12).call 12 (limitedCall 12).answer)).1.sent = [] := by
  have hrun : (Session.start strictDesk Memory.empty).run twoPuts = _ := rfl
  have heffect (now : Int) : Step.effect ((Session.start strictDesk Memory.empty).run twoPuts).2.desk
      (.call (limitedCall now).call now (limitedCall now).answer) = .attempt (limitedCall now) := rfl
  obtain ⟨-, w, hlast, hresult, -, hage⟩ := (cached_result_of_last_write hrun (heffect 30)).2.1
    { source := .stale, result := "b", key := "k" } rfl (.inr rfl)
  have hhit := (cached_result_of_last_write hrun (heffect 12)).2.2 rfl
    { key := "k", value := .object [("result", .str "b")], ttlSeconds := 10, time := 5 } "b"
    rfl rfl (by decide)
  exact ⟨⟨w, hlast, hresult, hage rfl⟩, hhit.1⟩

end Action
end RelayDesk
