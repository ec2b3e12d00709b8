import RelayDesk.Proofs.Action.Age
import RelayDesk.Proofs.Cache.Question
import RelayDesk.Proofs.Rpc.Judgement

/-!
What a result from the cache was the answer to.  In a run of calls that name no keys it was fetched
by an earlier call of the same key, and what that call asked is what this one asks.
-/

namespace RelayDesk
namespace Action

open Cache (AskAlike Attempt Call Memory Outcome Relay SameQuestion Store lowerAddress
  normalizeUrl)
open Rpc (canonicalMethod)

/-- A call that was answered by a reply to its own request sent that request only. -/
theorem sent_of_replied {σ : Type} [Store σ] {s : Session σ} {x : Attempt} {o : Outcome}
    (hresult : (s.attempt x).1 = .ok o) (hreplied : o.source.isReplied = true) :
    (s.step (callStep x)).1.sent = [x.call.asked s.relay.nextId] := by
  have heffect : Step.effect s.desk (callStep x) = .attempt x := rfl
  have hcarries := s.attempt_carries x
  rw [Session.step_of_attempt heffect]
  generalize s.attempt x = p at hcarries hresult
  cases hcarries with
  | kept posted answered label =>
    rw [Relay.keep_sent, Relay.post_sent]
    rfl
  | hit | bridged =>
    cases hresult
    cases hreplied
  | failed => cases hresult

section Calls

variable {desk : Desk} {before : List Attempt} {x : Attempt} {o : Outcome}

/-- In a run of calls from an empty memory, a result from the cache came in reply to an earlier call
under the same key. -/
theorem exists_fetch_of_cached
    (hresult : ((runCalls desk Memory.empty before).2.attempt x).1 = .ok o)
    (hcached : o.source = .cacheHit ∨ o.source = .stale) :
    ∃ earlier y later source, before = earlier ++ y :: later ∧
      ((runCalls desk Memory.empty earlier).2.attempt y).1 =
        .ok { source, result := o.result, key := x.call.key } ∧ source.isReplied = true := by
  obtain ⟨reports, s, hrun⟩ : ∃ reports s, runCalls desk Memory.empty before = (reports, s) :=
    ⟨_, _, rfl⟩
  rw [hrun] at hresult
  obtain ⟨record, hload, -, -⟩ := found_of_cached (s.attempt_carries x) hresult hcached
  obtain ⟨w, hlast, htext, -⟩ := (load_after_run hrun).mp hload
  obtain ⟨hkey, -⟩ := lastWrite?_eq_some_iff.mp hlast
  obtain ⟨earlier, y, later, o', hsplit, hfetch, hreplied, rfl⟩ := exists_fetch_of_lastWrite hlast
  dsimp only at hkey htext
  rw [member?_result_keptValue] at htext
  have hsame : o'.result = o.result := by simpa using htext
  refine ⟨earlier, y, later, o'.source, hsplit, ?_, hreplied⟩
  rw [hfetch, ← hsame, ← hkey]

/-- A call right after a fetch under its key is given what was fetched, as long as that is fresh. -/
theorem hit_after_fetch {s : Session Memory} {y : Attempt}
    (lenient : s.desk.config.strictMode = false) (hfetch : (s.attempt y).1 = .ok o)
    (hreplied : o.source.isReplied = true) (hkey : y.call.key = x.call.key)
    (hfresh : x.now ≤ Cache.expiry y.now (y.call.policy s.desk.config).ttlSeconds) :
    ((s.step (callStep y)).2.attempt x).1 =
      .ok { source := .cacheHit, result := o.result, key := x.call.key } := by
  have heffect : Step.effect s.desk (callStep y) = .attempt y := rfl
  have hcarries := s.attempt_carries y
  rw [Session.step_of_attempt heffect]
  generalize s.attempt y = p at hcarries hfetch
  cases hcarries with
  | @kept result source posted answered label =>
    cases hfetch
    have hfind := Memory.find?_insert s.relay.store
      (Relay.keptRecord s.desk.config y result) x.call.key
    rw [if_pos (show (Relay.keptRecord s.desk.config y result).key = x.call.key from hkey)] at hfind
    have htext : (Relay.keptRecord s.desk.config y result).result? = some result :=
      result?_eq_some_iff.mpr (member?_result_keptValue result y.now)
    unfold Session.attempt
    rw [Relay.execute_of_fresh lenient (Relay.load_memory_iff.mpr ⟨hfind, htext⟩)
      (decide_eq_true hfresh)]
  | hit | bridged =>
    cases hfetch
    cases hreplied
  | failed => cases hfetch

theorem fetched_from_empty (desk : Desk) {text : String} (h : x.answer.result = .ok text) :
    ∃ source, ((Session.start desk Memory.empty).attempt x).1 =
      .ok { source, result := text, key := x.call.key } ∧ source.isReplied = true := by
  have hcarries := (Session.start desk Memory.empty).attempt_carries x
  generalize (Session.start desk Memory.empty).attempt x = p at hcarries
  cases hcarries with
  | hit lenient found => cases found
  | kept posted answered label =>
    obtain rfl := Except.ok.inj (h.symm.trans answered)
    refine ⟨_, rfl, ?_⟩
    rw [label]
    split <;> rfl
  | bridged posted answered | failed posted answered =>
    rw [h] at answered
    cases answered

end Calls

/-- Calls that share a derived key ask the same.  Their params are the same up to the case of
account addresses, and where their methods have equally many bars, as those of the table do, so are
their addresses and methods, up to the case of letters in a method that the table does not have.
A result from the cache was therefore fetched by such a request. -/
theorem shared_key_asks_same :
    (∀ c : Call, Rpc.isKnownMethod c.method = true → c.bars = 0) ∧
      (∀ c d : Call, c.HasDerivedKey → d.HasDerivedKey → c.key = d.key → AskAlike c d) ∧
      ∀ (desk : Desk) (before : List Attempt) (x : Attempt) (o : Outcome),
        (∀ y ∈ before, y.call.HasDerivedKey) → x.call.HasDerivedKey →
        ((runCalls desk Memory.empty before).2.attempt x).1 = .ok o →
        o.source = .cacheHit ∨ o.source = .stale →
        ∃ earlier y later id, before = earlier ++ y :: later ∧
          ((runCalls desk Memory.empty earlier).2.step (callStep y)).1.sent = [y.call.asked id] ∧
          y.answer.result = .ok o.result ∧ AskAlike y.call x.call := by
  refine ⟨fun c => Call.bars_of_known, fun c d => Cache.askAlike_of_key_eq, ?_⟩
  intro desk before x o hbefore hx hresult hcached
  obtain ⟨earlier, y, later, source, rfl, hfetch, hreplied⟩ :=
    exists_fetch_of_cached hresult hcached
  obtain ⟨hanswer, hkey⟩ := result_of_replied (Session.attempt_carries _ y) hfetch hreplied
  have hy : y.call.HasDerivedKey := hbefore y (List.mem_append_right earlier List.mem_cons_self)
  exact ⟨earlier, y, later, _, rfl, sent_of_replied hfetch hreplied, hanswer,
    Cache.askAlike_of_key_eq hy hx hkey.symm⟩

/-- A call that is about one text. -/
def textCall (url method text : String) : Call :=
  { url, method, params := .arr [.str text], ttlSeconds := some 10 }

theorem derived_textCall (url method text : String) :
    (textCall url method text).HasDerivedKey where
  unnamed key h := by cases h
  params := ⟨1, .arr fun v hv => List.mem_singleton.mp hv ▸ .str text⟩

theorem key_textCall_eq {u v m n s t : String}
    (hfront : (textCall u m s).front = (textCall v n t).front)
    (htext : lowerAddress s = lowerAddress t) : (textCall u m s).key = (textCall v n t).key := by
  rw [Call.key_eq_iff (derived_textCall u m s) (derived_textCall v n t)]
  refine ⟨hfront, ?_⟩
  show Json.arr [.str (lowerAddress s)] = Json.arr [.str (lowerAddress t)]
  rw [htext]

/-- A balance is fetched. -/
def fetchedBalance : Attempt where
  call := textCall "u" "eth_getBalance" "0xABCDEFABCDEFABCDEFABCDEFABCDEFABCDEFABCD"
  now := 0
  answer := .reply (.okResult "0x1")

/-- Nine seconds later it is asked for again, in another spelling. -/
def respeltBalance : Attempt where
  call := textCall " u/ " " eth_getBalance " "0xabcdefabcdefabcdefabcdefabcdefabcdefabcd"
  now := 9
  answer := .reply (.okResult "0x2")

theorem canonicalMethod_respelt :
    canonicalMethod "eth_getBalance" = canonicalMethod " eth_getBalance " :=
  Rpc.canonicalMethod_eq_of_fold_eq (congrArg Text.lower (by decide))

theorem key_respeltBalance : fetchedBalance.call.key = respeltBalance.call.key := by
  have hurl : normalizeUrl "u" = normalizeUrl " u/ " := by decide
  refine key_textCall_eq ?_ (by decide +kernel)
  show (normalizeUrl "u").toList ++ '|' :: (canonicalMethod "eth_getBalance").toList =
    (normalizeUrl " u/ ").toList ++ '|' :: (canonicalMethod " eth_getBalance ").toList
  rw [hurl, canonicalMethod_respelt]

/-- The second call is given what the first one fetched, by a request that asks the same. -/
theorem respelt_balance_answered :
    ((runCalls plainDesk Memory.empty [fetchedBalance]).2.attempt respeltBalance).1 =
        .ok { source := .cacheHit, result := "0x1", key := respeltBalance.call.key } ∧
      ∃ id, ((runCalls plainDesk Memory.empty []).2.step (callStep fetchedBalance)).1.sent =
          [fetchedBalance.call.asked id] ∧
        ∀ j, SameQuestion (fetchedBalance.call.asked id) (respeltBalance.call.asked j) := by
  have hanswer : fetchedBalance.answer.result = .ok "0x1" := Rpc.result_okResult "0x1"
  obtain ⟨source, hfetch, hreplied⟩ := fetched_from_empty plainDesk hanswer
  have hhit : ((runCalls plainDesk Memory.empty [fetchedBalance]).2.attempt respeltBalance).1 = _ :=
    hit_after_fetch rfl hfetch hreplied key_respeltBalance (by decide)
  have hfetched : ∀ y ∈ [fetchedBalance], y.call.HasDerivedKey := fun y hy =>
    List.mem_singleton.mp hy ▸ derived_textCall _ _ _
  have hrespelt : respeltBalance.call.HasDerivedKey := derived_textCall _ _ _
  have hbars : fetchedBalance.call.bars = respeltBalance.call.bars := by
    show (canonicalMethod "eth_getBalance").toList.count '|' =
      (canonicalMethod " eth_getBalance ").toList.count '|'
    rw [canonicalMethod_respelt]
  obtain ⟨earlier, y, later, id, hsplit, hsent, -, hsame⟩ := shared_key_asks_same.2.2 plainDesk
    [fetchedBalance] respeltBalance _ hfetched hrespelt hhit (.inl rfl)
  cases earlier with
  | nil =>
    obtain ⟨rfl, -⟩ := List.cons.inj hsplit
    exact ⟨hhit, id, hsent, hsame.question hbars id⟩
  | cons z rest => simp at hsplit

/-! ## What keys leave out -/

theorem fold_debugTraceCall : Text.fold "debug_traceCall" = "debug_tracecall" ∧
    Text.fold "Debug_TraceCall" = "debug_tracecall" := by
  rw [Text.fold_of_isAscii (by decide), Text.fold_of_isAscii (by decide)]
  decide +kernel

theorem wireMethod_debugTraceCall {spelling : String}
    (h : Text.fold spelling = "debug_tracecall") : Rpc.wireMethod spelling = Text.trim spelling :=
  Rpc.wireMethod_of_unknown (Rpc.method?_eq_none h (by decide +kernel) (by decide +kernel))

theorem canonicalMethod_barred : canonicalMethod "b" = "b" ∧ canonicalMethod "a|b" = "a|b" := by
  have hplain : Text.fold "b" = "b" := by
    rw [Text.fold_of_isAscii (by decide)]
    decide
  have hbarred : Text.fold "a|b" = "a|b" := by
    rw [Text.fold_of_isAscii (by decide)]
    decide
  exact ⟨Rpc.canonicalMethod_of_unlisted hplain (by decide +kernel) (by decide +kernel),
    Rpc.canonicalMethod_of_unlisted hbarred (by decide +kernel) (by decide +kernel)⟩

/-- Calls of one derived key may send different methods, and may go to different addresses. -/
theorem other_requests_share_key :
    (¬ ∀ c d : Call, c.HasDerivedKey → d.HasDerivedKey → c.key = d.key →
        Rpc.wireMethod c.method = Rpc.wireMethod d.method) ∧
      ¬ ∀ c d : Call, c.HasDerivedKey → d.HasDerivedKey → c.key = d.key →
        normalizeUrl c.url = normalizeUrl d.url := by
  constructor
  · intro h
    obtain ⟨hsmall, hcapital⟩ := fold_debugTraceCall
    have hmethod := Rpc.canonicalMethod_eq_of_fold_eq (hsmall.trans hcapital.symm)
    have hkey : (textCall "u" "debug_traceCall" "0x1").key =
        (textCall "u" "Debug_TraceCall" "0x1").key := by
      refine key_textCall_eq ?_ rfl
      show (normalizeUrl "u").toList ++ '|' :: (canonicalMethod "debug_traceCall").toList =
        (normalizeUrl "u").toList ++ '|' :: (canonicalMethod "Debug_TraceCall").toList
      rw [hmethod]
    have hwire := h _ _ (derived_textCall _ _ _) (derived_textCall _ _ _) hkey
    dsimp only [textCall] at hwire
    rw [wireMethod_debugTraceCall hsmall, wireMethod_debugTraceCall hcapital] at hwire
    exact absurd hwire (by decide)
  · intro h
    obtain ⟨hplain, hbarred⟩ := canonicalMethod_barred
    have hkey : (textCall "u|a" "b" "0x1").key = (textCall "u" "a|b" "0x1").key := by
      refine key_textCall_eq ?_ rfl
      show (normalizeUrl "u|a").toList ++ '|' :: (canonicalMethod "b").toList =
        (normalizeUrl "u").toList ++ '|' :: (canonicalMethod "a|b").toList
      rw [hplain, hbarred]
      decide
    have hurl := h _ _ (derived_textCall _ _ _) (derived_textCall _ _ _) hkey
    exact absurd hurl (by decide)

end Action
end RelayDesk
