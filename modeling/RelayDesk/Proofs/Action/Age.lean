import RelayDesk.Proofs.Action.Discipline
import RelayDesk.Proofs.Action.Persistence
import RelayDesk.Proofs.Except
import RelayDesk.Proofs.Json.Value

/-!
How old a result is that a call gives from the cache.  It was fetched by an earlier call under the
same key, and how long it may be given is fixed by the policy of that call.  A later call has a say
in the window that is added for a stale result, but cannot ask for a shorter lifetime than the one
that the record was written with.
-/

namespace RelayDesk
namespace Action

open Cache (Attempt Memory Outcome Record Relay)

section Ends

variable {config : Cache.Config} {x : Attempt} {r : Relay Memory}
  {p : Except Rpc.Failure Outcome × Relay Memory} {o : Outcome}

/-- A call that was answered by a reply to its own request gives the result of that reply. -/
theorem result_of_replied (h : Relay.Carries config x r p) (hresult : p.1 = .ok o)
    (hreplied : o.source.isReplied = true) :
    x.answer.result = .ok o.result ∧ o.key = x.call.key := by
  cases h with
  | hit =>
    cases hresult
    cases hreplied
  | kept posted answered label =>
    cases hresult
    exact ⟨answered, rfl⟩
  | bridged =>
    cases hresult
    cases hreplied
  | failed => cases hresult

/-- A result from the cache is that of a record which the store has under the call's key, within
its lifetime, or within the call's own window after that. -/
theorem found_of_cached (h : Relay.Carries config x r p) (hresult : p.1 = .ok o)
    (hcached : o.source = .cacheHit ∨ o.source = .stale) :
    ∃ record, r.load x.call.key = some (record, o.result) ∧
      (o.source = .cacheHit → record.isFresh x.now = true) ∧
      (o.source = .stale →
        record.isWithinWindow x.now (x.call.policy config).maxStaleSeconds = true) := by
  cases h with
  | @hit record result lenient found fresh =>
    cases hresult
    refine ⟨record, found, fun _ => fresh, fun h => ?_⟩
    cases h
  | kept posted answered label =>
    cases hresult
    split at label <;> simp [label] at hcached
  | @bridged failure record result posted answered found bridge =>
    cases hresult
    simp only [Relay.bridges, Bool.and_eq_true] at bridge
    refine ⟨record, found, fun h => ?_, fun _ => bridge.2⟩
    cases h
  | failed => cases hresult

end Ends

theorem member?_result_keptValue (text : String) (now : Int) :
    (Relay.keptValue text now).member? "result" = some (.str text) := by
  unfold Relay.keptValue
  rw [Json.member?_object]
  rfl

section Calls

variable {desk : Desk} {before : List Attempt}

theorem desk_runCalls (desk : Desk) (before : List Attempt) :
    (runCalls desk Memory.empty before).2.desk = desk :=
  desk_run (Session.start desk Memory.empty) before

/-- What a run of calls wrote was fetched by one of them. -/
theorem exists_fetch_of_lastWrite {key : String} {w : Write}
    (h : lastWrite? key
      ((Session.start desk Memory.empty).writes (before.map callStep)) = some w) :
    ∃ earlier y later o, before = earlier ++ y :: later ∧
      ((runCalls desk Memory.empty earlier).2.attempt y).1 = .ok o ∧
      o.source.isReplied = true ∧
      { key := o.key, value := Relay.keptValue o.result y.now,
        ttlSeconds := (y.call.policy desk.config).ttlSeconds, time := y.now } = w := by
  obtain ⟨-, front, back, hws, -⟩ := lastWrite?_eq_some_iff.mp h
  have hmem : w ∈ (Session.start desk Memory.empty).writes (before.map callStep) := by
    rw [hws]
    exact List.mem_append_right front List.mem_cons_self
  obtain ⟨steps, st, rest, hsplit, hwrite⟩ := Session.exists_of_mem_writes hmem
  obtain ⟨earlier, later, rfl, rfl, hlater⟩ := List.map_eq_append_iff.mp hsplit
  obtain ⟨y, later, rfl, rfl, rfl⟩ := List.map_eq_cons_iff.mp hlater
  obtain ⟨o, ho, hreplied, hw⟩ := keptWrite?_eq_some_iff.mp hwrite
  have hdesk : ((Session.start desk Memory.empty).run (earlier.map callStep)).2.desk = desk :=
    desk_runCalls desk earlier
  rw [hdesk] at hw
  exact ⟨earlier, y, later, o, rfl, ho, hreplied, hw⟩

/-- In a run of calls from an empty memory, a result from the cache was fetched by an earlier call
under the same key.  It is as old at most as that call's lifetime, with the window of the call that
is given it added for a stale one.  Where the lifetime was no longer than the one that this call
asks for, the result is no older than this call's own lifetime and window. -/
theorem cached_result_fetched_in_time {x : Attempt} {o : Outcome}
    (hresult : ((runCalls desk Memory.empty before).2.attempt x).1 = .ok o)
    (hcached : o.source = .cacheHit ∨ o.source = .stale) :
    ∃ earlier y later, before = earlier ++ y :: later ∧ y.call.key = x.call.key ∧
      (∃ source, ((runCalls desk Memory.empty earlier).2.attempt y).1 =
          .ok { source, result := o.result, key := x.call.key } ∧ source.isReplied = true) ∧
      y.answer.result = .ok o.result ∧
      (o.source = .cacheHit →
        x.now ≤ y.now + (y.call.policy desk.config).ttlSeconds) ∧
      (o.source = .stale →
        x.now ≤ y.now + (y.call.policy desk.config).ttlSeconds +
          (x.call.policy desk.config).maxStaleSeconds) ∧
      ((y.call.policy desk.config).ttlSeconds ≤ (x.call.policy desk.config).ttlSeconds →
        x.now ≤ y.now + (x.call.policy desk.config).ttlSeconds +
          (x.call.policy desk.config).maxStaleSeconds) := by
  obtain ⟨reports, s, hrun⟩ : ∃ reports s, runCalls desk Memory.empty before = (reports, s) :=
    ⟨_, _, rfl⟩
  have hdesk := desk_runCalls desk before
  rw [hrun] at hresult hdesk
  obtain ⟨record, hload, hfresh, hwindow⟩ :=
    found_of_cached (s.attempt_carries x) hresult hcached
  rw [hdesk] at hwindow
  obtain ⟨w, hlast, htext, rfl⟩ := (load_after_run hrun).mp hload
  obtain ⟨hkey, -⟩ := lastWrite?_eq_some_iff.mp hlast
  obtain ⟨earlier, y, later, o', hsplit, hfetch, hreplied, rfl⟩ := exists_fetch_of_lastWrite hlast
  obtain ⟨hanswer, hown⟩ := result_of_replied (Session.attempt_carries _ y) hfetch hreplied
  dsimp only at hkey htext
  rw [member?_result_keptValue] at htext
  have hsame : o'.result = o.result := by simpa using htext
  have hhit : o.source = .cacheHit → x.now ≤ y.now + (y.call.policy desk.config).ttlSeconds :=
    fun hsource => Record.le_of_isFresh_write (hfresh hsource)
  have hstale : o.source = .stale →
      x.now ≤ y.now + (y.call.policy desk.config).ttlSeconds +
        (x.call.policy desk.config).maxStaleSeconds :=
    fun hsource => Record.le_of_isWithinWindow_write (hwindow hsource)
  refine ⟨earlier, y, later, hsplit, hown.symm.trans hkey, ⟨o'.source, ?_, hreplied⟩,
    hsame ▸ hanswer, hhit, hstale, fun hshorter => ?_⟩
  · rw [hfetch, ← hsame, ← hkey]
  · rcases hcached with hsource | hsource
    · have := hhit hsource
      omega
    · have := hstale hsource
      omega

end Calls

/-- A gas price asked for under the key `k`, which a node would tell. -/
def priceCall (now : Int) (ttl : Nat) (price : String) : Attempt where
  call := { url := "u", method := "eth_gasPrice", params := .null, cacheKey := some "k",
            ttlSeconds := some ttl, maxStaleSeconds := some 0 }
  now := now
  answer := .reply (.okResult price)

/-- A call that wants a price of the last ten seconds is given one that is fifty seconds old. -/
theorem attempt_priceCall :
    ((runCalls plainDesk Memory.empty [priceCall 0 100 "0x1"]).2.attempt
      (priceCall 50 10 "0x2")).1 = .ok { source := .cacheHit, result := "0x1", key := "k" } := by
  rw [← toOption_eq_some_iff]
  decide +kernel

/-- It was fetched by the call before, which had it kept for a hundred seconds. -/
theorem price_fetched_by_call_before :
    ∃ y ∈ [priceCall 0 100 "0x1"], y.answer.result = .ok "0x1" ∧ (50 : Int) ≤ y.now + 100 := by
  obtain ⟨earlier, y, later, hsplit, -, -, hanswer, hhit, -⟩ :=
    cached_result_fetched_in_time attempt_priceCall (.inl rfl)
  have hmem : y ∈ [priceCall 0 100 "0x1"] := by
    rw [hsplit]
    exact List.mem_append_right earlier List.mem_cons_self
  refine ⟨y, hmem, hanswer, ?_⟩
  have hage := hhit rfl
  obtain rfl := List.mem_singleton.mp hmem
  exact hage

/-- The lifetime and the window of a call do not bound the age of what it is given. -/
theorem age_not_bounded_by_own_policy :
    ¬ ∀ (desk : Desk) (before : List Attempt) (x : Attempt) (o : Outcome),
      (before ++ [x]).Pairwise (fun y z => y.now ≤ z.now) →
      ((runCalls desk Memory.empty before).2.attempt x).1 = .ok o →
      o.source = .cacheHit ∨ o.source = .stale →
      ∃ y ∈ before, y.answer.result = .ok o.result ∧
        x.now ≤ y.now + (x.call.policy desk.config).ttlSeconds +
          (x.call.policy desk.config).maxStaleSeconds := by
  intro h
  obtain ⟨y, hy, -, hage⟩ := h _ _ _ _ (by decide) attempt_priceCall (.inl rfl)
  obtain rfl := List.mem_singleton.mp hy
  exact absurd hage (by decide)

end Action
end RelayDesk
