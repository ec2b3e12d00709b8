import RelayDesk.Proofs.Action.Serving
import RelayDesk.Proofs.Cache.Directory

/-!
Blocked actions and the reach of the others.  An action is blocked by either of its keys, whichever
of them a request uses.  A request that is not blocked sends something only if it asks for a cached
call, and writes only if it asks for a call or a put, and then under the one key that it reports.
-/

namespace RelayDesk
namespace Action

open Cache (Directory Placed Post Relay Store)

/-- A request at a time, with what comes of its call if it sends one. -/
structure Inquiry where
  request : Request
  now : Int
  answer : Rpc.Answer
  deriving DecidableEq, Repr

def Inquiry.step (q : Inquiry) : Step := .dispatch q.request q.now q.answer

/-! ## Keys that results report -/

theorem member?_toJson (o : Cache.Outcome) : o.toJson.member? "cacheKey" = some (.str o.key) := by
  unfold Cache.Outcome.toJson
  rw [Json.member?_object]
  rfl

theorem member?_confirmation (w : Write) : w.confirmation.member? "key" = some (.str w.key) := by
  unfold Write.confirmation
  rw [Json.member?_object]
  rfl

section Requests

variable {σ : Type} [Store σ]

/-! ## Requests in sessions -/

/-- The envelope that answers a request in a session. -/
def Session.envelope (s : Session σ) (q : Inquiry) : Envelope :=
  (s.desk.answer s.relay.clean q.request q.now q.answer).1

theorem answer_inquiry (s : Session σ) (q : Inquiry) :
    (s.step q.step).1.answer =
      .dispatched ((s.envelope q).output q.request.wantsResultsOnly) := by
  unfold Inquiry.step Session.envelope Desk.answer
  rw [Session.step_dispatch]

theorem desk_run_inquiries (s : Session σ) (qs : List Inquiry) :
    (s.run (qs.map Inquiry.step)).2.desk = s.desk := by
  apply Session.desk_run
  intro st hst config blocked h
  obtain ⟨q, -, rfl⟩ := List.mem_map.mp hst
  cases h

/-! ## One request -/

variable {d : Desk} {q : Inquiry} {r : Relay σ} {p : Except Fault Json × Relay σ}

theorem status_ne_blocked_of_ok (value : Json) : (Envelope.of (.ok value)).status ≠ .blocked :=
  nofun

theorem status_ne_blocked_of_isOwn {fault : Fault} (hown : fault.isOwn = true) :
    (Envelope.of (.error fault)).status ≠ .blocked := by
  intro h
  cases fault with
  | blocked name => cases hown
  | _ => cases h

theorem status_ne_blocked_of_actionResult (result : Except Rpc.Failure Cache.Outcome) :
    (Envelope.of (actionResult result)).status ≠ .blocked := by
  intro h
  cases result with
  | ok outcome => cases h
  | error failure => cases h

/-- A request is answered blocked exactly if its action is blocked. -/
theorem status_eq_blocked_iff (h : d.Serves r q.request p) {e : Entry Operation}
    (hfind : builtin.find? q.request.action = some e) :
    (Envelope.of p.1).status = .blocked ↔ d.blocks e = true := by
  have hpermitted : ∀ {e'}, d.permit q.request.action = .ok e' →
      (Envelope.of p.1).status ≠ .blocked →
      ((Envelope.of p.1).status = .blocked ↔ d.blocks e = true) := by
    intro e' hpermit hstatus
    obtain ⟨hfind', hblocks⟩ := permit_eq_ok hpermit
    rw [hfind] at hfind'
    obtain rfl := Option.some.inj hfind'
    simp [hstatus, hblocks]
  cases h with
  | barred hpermit =>
    rcases permit_eq_error hpermit with ⟨e', hfind', hblocks, rfl⟩ | ⟨hnone, -⟩
    · rw [hfind] at hfind'
      obtain rfl := Option.some.inj hfind'
      exact ⟨fun _ => hblocks, fun _ => rfl⟩
    · rw [hfind] at hnone
      cases hnone
  | refused hpermit hown => exact hpermitted hpermit (status_ne_blocked_of_isOwn hown)
  | answered value hpermit => exact hpermitted hpermit (status_ne_blocked_of_ok value)
  | put hpermit => exact hpermitted hpermit (status_ne_blocked_of_ok _)
  | called hpermit => exact hpermitted hpermit (status_ne_blocked_of_actionResult _)

variable [Placed σ]

/-- What one request may do at a desk between two relays, when it is answered by `envelope` and
sends `sent`. -/
structure Confined (d : Desk) (q : Inquiry) (before : Relay σ) (envelope : Envelope)
    (sent : List Post) (after : Relay σ) : Prop where
  /-- It does not matter by which of its two keys the action is asked for, or blocked. -/
  blocked_iff : ∀ e ∈ builtin.entries, Text.trim q.request.action ∈ e.keys →
    (envelope.status = .blocked ↔ d.Bars e)
  idle_of_blocked : envelope.status = .blocked →
    envelope.code = 403 ∧ sent = [] ∧ after.store = before.store ∧ after.nextId = before.nextId
  sender : sent ≠ [] →
    ∃ e ∈ builtin.entries, Text.trim q.request.action ∈ e.keys ∧ e.action = .rpcCallCached
  /-- The store changes at the place of the key that the result reports, and nowhere else. -/
  writer : after.store ≠ before.store →
    ∃ e ∈ builtin.entries, Text.trim q.request.action ∈ e.keys ∧
      ∃ result key, envelope.result = some result ∧
        (e.action = .rpcCallCached ∧ result.member? "cacheKey" = some (.str key) ∨
          e.action = .cachePut ∧ result.member? "key" = some (.str key)) ∧
        ∀ k, Placed.place σ k ≠ Placed.place σ key →
          Store.get after.store k = Store.get before.store k

theorem confined_of_serves (h : d.Serves r.clean q.request p) :
    Confined d q r (.of p.1) p.2.sent.reverse p.2 where
  blocked_iff e he hkey := by
    rw [status_eq_blocked_iff h (find?_of_mem eq_of_shared_key he hkey)]
    exact blocks_iff he
  idle_of_blocked hstatus := by
    cases h with
    | barred hpermit =>
      rcases permit_eq_error hpermit with ⟨e, -, -, rfl⟩ | ⟨-, rfl⟩
      · exact ⟨rfl, rfl, rfl, rfl⟩
      · cases hstatus
    | refused hpermit hown => exact absurd hstatus (status_ne_blocked_of_isOwn hown)
    | answered value hpermit => cases hstatus
    | put hpermit => cases hstatus
    | called hpermit => exact absurd hstatus (status_ne_blocked_of_actionResult _)
  sender hsent := by
    cases h with
    | called hpermit hop hcarries =>
      obtain ⟨he, hkey⟩ := mem_of_find? (permit_eq_ok hpermit).1
      exact ⟨_, he, hkey, hop⟩
    | _ => exact absurd rfl hsent
  writer hchanged := by
    cases h with
    | put hpermit hop hput =>
      obtain ⟨he, hkey⟩ := mem_of_find? (permit_eq_ok hpermit).1
      refine ⟨_, he, hkey, _, _, rfl, .inr ⟨hop, member?_confirmation _⟩, fun k hplace => ?_⟩
      exact Placed.get_put hput hplace
    | @called e x p hpermit hop hcarries =>
      obtain ⟨he, hkey⟩ := mem_of_find? (permit_eq_ok hpermit).1
      cases hcarries with
      | @kept text source posted answered label =>
        refine ⟨e, he, hkey, _, _, rfl, .inl ⟨hop, member?_toJson _⟩, fun k hplace => ?_⟩
        have hends := Relay.store_keep (r.clean.post x.call) (Relay.keptRecord d.config x text)
        rcases hends with hkeep | hput
        · exact absurd hkeep hchanged
        · exact Placed.get_put hput hplace
      | _ => exact absurd rfl hchanged
    | _ => exact absurd rfl hchanged

/-- Blocked writers and senders leave everything as it is. -/
theorem Confined.idle {before after : Relay σ} {envelope : Envelope} {sent : List Post}
    (h : Confined d q before envelope sent after)
    (hblocked : ∀ e ∈ builtin.entries, e.action = .rpcCallCached ∨ e.action = .cachePut →
      d.Bars e) :
    sent = [] ∧ after.store = before.store := by
  have hidle : ∀ e ∈ builtin.entries, Text.trim q.request.action ∈ e.keys →
      e.action = .rpcCallCached ∨ e.action = .cachePut →
      sent = [] ∧ after.store = before.store := by
    intro e he hkey hop
    have hstatus := (h.blocked_iff e he hkey).mpr (hblocked e he hop)
    obtain ⟨-, hsent, hstore, -⟩ := h.idle_of_blocked hstatus
    exact ⟨hsent, hstore⟩
  by_cases hsent : sent = []
  · by_cases hstore : after.store = before.store
    · exact ⟨hsent, hstore⟩
    · obtain ⟨e, he, hkey, result, key, -, hop, -⟩ := h.writer hstore
      exact hidle e he hkey (hop.imp And.left And.left)
  · obtain ⟨e, he, hkey, hop⟩ := h.sender hsent
    exact hidle e he hkey (.inl hop)

/-! ## Runs of requests -/

theorem confined_step (s : Session σ) (q : Inquiry) :
    Confined s.desk q s.relay (s.envelope q) (s.step q.step).1.sent (s.step q.step).2.relay := by
  have hserves := s.desk.run_serves s.relay.clean q.request q.now q.answer
  unfold Inquiry.step Session.envelope Desk.answer
  rw [Session.step_dispatch]
  generalize s.desk.run s.relay.clean q.request q.now q.answer = p at hserves ⊢
  exact confined_of_serves hserves

theorem idle_run {s : Session σ} (qs : List Inquiry)
    (hblocked : ∀ e ∈ builtin.entries, e.action = .rpcCallCached ∨ e.action = .cachePut →
      s.desk.Bars e) :
    (s.run (qs.map Inquiry.step)).1.flatMap Report.sent = [] ∧
      (s.run (qs.map Inquiry.step)).2.relay.store = s.relay.store := by
  induction qs generalizing s with
  | nil => exact ⟨rfl, rfl⟩
  | cons q rest ih =>
    obtain ⟨hsent, hstore⟩ := (confined_step s q).idle hblocked
    have hdesk : (s.step q.step).2.desk = s.desk := Session.desk_step fun _ _ h => by cases h
    obtain ⟨hrest, hend⟩ := ih (s := (s.step q.step).2) (by rw [hdesk]; exact hblocked)
    rw [List.map_cons, Session.run_cons, List.flatMap_cons, hsent, hrest, hend, hstore]
    exact ⟨rfl, rfl⟩

/-- In a run of requests over any store that keeps each key at a place, every request is confined:
it is answered blocked exactly if its action is blocked by either key, only a cached call sends
anything, and only a call or a put writes, under the key that it reports.  Where these two are
blocked the store stays as it was and nothing is ever sent. -/
theorem requests_confined (s : Session σ) (before later : List Inquiry) (q : Inquiry) :
    (∃ sent,
      (s.run ((before ++ q :: later).map Inquiry.step)).1[before.length]? =
        some
          { answer := .dispatched
              (((s.run (before.map Inquiry.step)).2.envelope q).output q.request.wantsResultsOnly)
            sent } ∧
      Confined s.desk q (s.run (before.map Inquiry.step)).2.relay
        ((s.run (before.map Inquiry.step)).2.envelope q) sent
        (s.run ((before ++ [q]).map Inquiry.step)).2.relay) ∧
    ((∀ e ∈ builtin.entries, e.action = .rpcCallCached ∨ e.action = .cachePut →
        s.desk.Bars e) →
      (s.run ((before ++ q :: later).map Inquiry.step)).1.flatMap Report.sent = [] ∧
        (s.run ((before ++ q :: later).map Inquiry.step)).2.relay.store = s.relay.store) := by
  refine ⟨?_, idle_run (before ++ q :: later)⟩
  have hdesk := desk_run_inquiries s before
  have hreport := Session.getElem?_run s (before.map Inquiry.step) (later.map Inquiry.step) q.step
  have hend := Session.run_append s (before.map Inquiry.step) [q.step]
  rw [List.length_map] at hreport
  -- The requests before this one matter only through the session that they leave.
  generalize (s.run (before.map Inquiry.step)).2 = t at hdesk hreport hend ⊢
  refine ⟨(t.step q.step).1.sent, ?_, ?_⟩
  · rw [List.map_append, List.map_cons, hreport, ← answer_inquiry]
  · rw [List.map_append, List.map_singleton, hend, ← hdesk]
    exact confined_step t q

end Requests

/-- A desk that blocks both writers, one by each of its keys. -/
def readingDesk : Desk where
  config := .default
  tables := { bridges := [], swaps := [] }
  blocked := [" rpc_call_cached\t", "cachePut "]

/-- The two writers, each asked for by its other key. -/
def writingInquiries : List Inquiry :=
  [{ request :=
       { action := "cache_put"
         params := .object [("key", .str "k"), ("ttl", .ofNat 5), ("value", .bool true)]
         resultsOnly := false }
     now := 1, answer := .failure "not asked" },
   { request :=
       { action := " rpcCallCached"
         params := .object [("url", .str "u"), ("method", .str "eth_gasPrice")]
         resultsOnly := true }
     now := 2, answer := .reply (.okResult "0x1") }]

/-- Asking by the other key does not get past the block, and no directory is made. -/
theorem writers_blocked_by_other_key :
    ((Session.start readingDesk (Directory.absent 7 0)).run
        (writingInquiries.map Inquiry.step)).1.flatMap Report.sent = [] ∧
      ((Session.start readingDesk (Directory.absent 7 0)).run
        (writingInquiries.map Inquiry.step)).2.relay.store = Directory.absent 7 0 := by
  have hblocked : ∀ e ∈ builtin.entries, e.action = .rpcCallCached ∨ e.action = .cachePut →
      readingDesk.Bars e := by
    unfold Desk.Bars
    decide +kernel
  exact (requests_confined (Session.start readingDesk (Directory.absent 7 0)) []
    writingInquiries.tail (writingInquiries.head (by decide))).2 hblocked

end Action
end RelayDesk
