import RelayDesk.Proofs.Action.Provenance
import RelayDesk.Proofs.Action.Serving

/-!
Requests that fail.  Every check of an action comes before its effect, so a failure leaves the store
as it was.  Only the failure of a node has cost a request, and then exactly one.
-/

namespace RelayDesk

theorem Rpc.FailureKind.name_injective : Function.Injective Rpc.FailureKind.name := by
  intro a b h
  cases a <;> cases b <;> first | rfl | exact absurd h (by decide)

namespace Action

open Cache (Memory Relay Store)

/-- The kinds of faults that no node has a part in. -/
def localKinds : List String :=
  ["validation", "unsupported", "no_route", "store", "unknown_action", "blocked"]

theorem name_not_mem_localKinds (kind : Rpc.FailureKind) : kind.name ∉ localKinds := by
  cases kind <;> decide

theorem kind_mem_localKinds {fault : Fault} (hfault : ∀ failure, fault ≠ .rpc failure) :
    fault.kind ∈ localKinds := by
  cases fault with
  | rpc failure => exact absurd rfl (hfault failure)
  | _ => simp [Fault.kind, localKinds]

theorem kind_ne_name {fault : Fault} (hfault : ∀ failure, fault ≠ .rpc failure)
    (kind : Rpc.FailureKind) : fault.kind ≠ kind.name := by
  intro heq
  apply name_not_mem_localKinds kind
  rw [← heq]
  exact kind_mem_localKinds hfault

theorem ne_rpc_of_isOwn {fault : Fault} (hown : fault.isOwn = true) (failure : Rpc.Failure) :
    fault ≠ .rpc failure := by
  rintro rfl
  cases hown

theorem ne_rpc_of_permit {d : Desk} {action : String} {fault : Fault}
    (hpermit : d.permit action = .error fault) (failure : Rpc.Failure) : fault ≠ .rpc failure := by
  rcases permit_eq_error hpermit with ⟨e, -, -, rfl⟩ | ⟨-, rfl⟩
  · exact nofun
  · exact nofun

section

variable {σ : Type} [Store σ] {d : Desk} {r after : Relay σ} {request : Request} {now : Int}
  {answer : Rpc.Answer} {e : Envelope}

/-- A request whose envelope is not ok leaves the store as it was.  What the desk or the action
refuses leaves the ids and the record of requests as they were too, and the failure of a node comes
after exactly one request. -/
theorem failed_request_leaves_no_trace (hanswer : d.answer r request now answer = (e, after))
    (hfailed : e.status ≠ .ok) :
    after.store = r.store ∧
    (∀ kind ∈ ["validation", "unsupported", "no_route", "unknown_action", "blocked"],
      e.kind = some kind → after.sent = r.sent ∧ after.nextId = r.nextId) ∧
    ∀ kind : Rpc.FailureKind, e.kind = some kind.name →
      (∃ post, after.sent = post :: r.sent) ∧ after.nextId = r.nextId + 1 ∧
        e.code = match kind with
          | .rateLimited => 429
          | .unavailable => 503
          | _ => 502 := by
  obtain ⟨result, r', hrun⟩ : ∃ result r', d.run r request now answer = (result, r') :=
    ⟨_, _, rfl⟩
  have hserves := d.run_serves r request now answer
  unfold Desk.answer at hanswer
  rw [hrun] at hanswer hserves
  obtain ⟨rfl, rfl⟩ := Prod.mk.inj hanswer
  cases hserves with
  | barred hpermit =>
    refine ⟨rfl, fun _ _ _ => ⟨rfl, rfl⟩, fun kind hkind => ?_⟩
    exact absurd (Option.some.inj hkind) (kind_ne_name (ne_rpc_of_permit hpermit) kind)
  | refused hpermit hown =>
    refine ⟨rfl, fun _ _ _ => ⟨rfl, rfl⟩, fun kind hkind => ?_⟩
    exact absurd (Option.some.inj hkind) (kind_ne_name (ne_rpc_of_isOwn hown) kind)
  | answered value hpermit => exact absurd rfl hfailed
  | put hpermit hop hput => exact absurd rfl hfailed
  | called hpermit hop hcarries =>
    cases hcarries with
    | hit => exact absurd rfl hfailed
    | kept => exact absurd rfl hfailed
    | bridged => exact absurd rfl hfailed
    | @failed failure posted answered unbridged =>
      refine ⟨rfl, fun kind hmem hkind => ?_, fun kind hkind => ⟨⟨_, rfl⟩, rfl, ?_⟩⟩
      · obtain rfl : failure.kind.name = kind := Option.some.inj hkind
        have hlocal : ["validation", "unsupported", "no_route", "unknown_action", "blocked"] ⊆
            localKinds := by decide
        exact absurd (hlocal hmem) (name_not_mem_localKinds failure.kind)
      · obtain rfl := Rpc.FailureKind.name_injective (Option.some.inj hkind)
        rfl

end

/-- A desk's relay whose memory has a gas price that is still fresh. -/
def relayWithPrice : Relay Memory :=
  .start (Memory.empty.insert (.write "price" (.object [("result", .str "0x1")]) 60 0))

/-- The gas price asked for once more, and no old one wanted. -/
def priceRequest (allowStale : Json) : Request where
  action := " rpc_call_cached "
  params := .object
    [("url", .str "u"), ("method", .str "eth_gasPrice"), ("cacheKey", .str "price"),
     ("allowStale", allowStale)]
  resultsOnly := true

/-- The price stays when the node is over its limit, and one request was sent; a word that is no
truth value is found before anything is sent. -/
theorem price_outlasts_failures :
    (strictDesk.answer relayWithPrice (priceRequest (.str "FALSE")) 5
        (.reply { status := 429, body := "" })).2.store = relayWithPrice.store ∧
      (strictDesk.answer relayWithPrice (priceRequest (.str "FALSE")) 5
        (.reply { status := 429, body := "" })).2.nextId = 2 ∧
      (strictDesk.answer relayWithPrice (priceRequest (.str "maybe")) 5
        (.reply { status := 429, body := "" })).2.sent = [] := by
  have hlimited := failed_request_leaves_no_trace
    (rfl : strictDesk.answer relayWithPrice (priceRequest (.str "FALSE")) 5
      (.reply { status := 429, body := "" }) = _) (by decide +kernel)
  have hunread := failed_request_leaves_no_trace
    (rfl : strictDesk.answer relayWithPrice (priceRequest (.str "maybe")) 5
      (.reply { status := 429, body := "" }) = _) (by decide +kernel)
  refine ⟨hlimited.1, (hlimited.2.2 .rateLimited (by decide +kernel)).2.1, ?_⟩
  exact (hunread.2.1 "validation" (by decide) (by decide +kernel)).1

end Action
end RelayDesk
