import RelayDesk.Proofs.Action.BareResult
import RelayDesk.Proofs.Action.Writes

/-!
Members that are null.  An object of params is read by looking names up in it, and a null that is
found there counts as nothing found.  So an object and the same object without its null members are
served alike, by every action, in a single dispatch and over a whole session.
-/

namespace RelayDesk
namespace Action

open Cache (Memory Relay Store)
open Params (SameAt)

/-! ## Params -/

/-- The members that are not null. -/
def presentMembers (members : List (String × Json)) : List (String × Json) :=
  members.filter fun m => m.2 ≠ .null

theorem find?_presentMembers {members : List (String × Json)} (honce : (Keyed.keys members).Nodup)
    (name : String) :
    Keyed.find? name (presentMembers members) =
      (Keyed.find? name members).filter fun v => v ≠ .null :=
  Keyed.find?_filter _ honce name

/-- Params have the same under a name as the value there that is not null. -/
theorem Params.find?_eq_filter (p : Params) (name : String) :
    p.find? name = (Keyed.find? name p.members).filter fun v => v ≠ .null := by
  unfold find?
  cases Keyed.find? name p.members with
  | none => rfl
  | some v => cases v <;> rfl

/-- Without their null members params have the same under every name. -/
theorem sameAt_presentMembers {members : List (String × Json)}
    (honce : (Keyed.keys members).Nodup) (names : List String) :
    SameAt names { members := presentMembers members } { members } := by
  intro name _
  rw [Params.find?_eq_filter, Params.find?_eq_filter, find?_presentMembers honce,
    Option.filter_filter]
  simp only [Bool.and_self]

/-! ## Requests and steps -/

namespace Request

/-- The request without the null members of its params. -/
def withoutNulls (r : Request) : Request :=
  match r.params with
  | .obj members => { r with params := .obj (presentMembers members) }
  | _ => r

/-- In the params of the request, if they are an object, no name stands twice. -/
def NamesOnce (r : Request) : Prop :=
  ∀ members, r.params = .obj members → (Keyed.keys members).Nodup

theorem wantsResultsOnly_withoutNulls {r : Request} (honce : r.NamesOnce) :
    r.withoutNulls.wantsResultsOnly = r.wantsResultsOnly := by
  obtain ⟨action, params, bare⟩ := r
  cases params with
  | obj members =>
    have hfound : Keyed.find? resultsOnlyKey (presentMembers members) = _ :=
      find?_presentMembers (honce members rfl) resultsOnlyKey
    simp only [withoutNulls, wantsResultsOnly, Json.member?, hfound]
    -- A null is not the wish for a bare result, so it may as well be missing.
    cases Keyed.find? resultsOnlyKey members with
    | none => rfl
    | some v => cases v <;> rfl
  | _ => rfl

end Request

namespace Step

/-- The step without the null members of the params that it dispatches. -/
def withoutNulls : Step → Step
  | .dispatch request now answer => .dispatch request.withoutNulls now answer
  | st => st

def NamesOnce : Step → Prop
  | .dispatch request _ _ => request.NamesOnce
  | _ => True

end Step

section Running

variable {σ : Type} [Store σ]

theorem run_withoutNulls (d : Desk) (r : Relay σ) {request : Request} (honce : request.NamesOnce)
    (now : Int) (answer : Rpc.Answer) :
    d.run r request.withoutNulls now answer = d.run r request now answer := by
  obtain ⟨action, params, bare⟩ := request
  cases params with
  | obj members =>
    apply Desk.run_of_operations (p := { members := presentMembers members })
      (q := { members := members })
    intro op
    exact Operation.run_congr (sameAt_presentMembers (honce members rfl) op.fields) d r now answer
  | _ => rfl

/-- A request without its null members gives the same output and leaves the same relay. -/
theorem dispatch_withoutNulls (d : Desk) (r : Relay σ) (request : Request)
    (honce : request.NamesOnce) (now : Int) (answer : Rpc.Answer) :
    d.dispatch r request.withoutNulls now answer = d.dispatch r request now answer := by
  rw [dispatch_eq, dispatch_eq, run_withoutNulls d r honce,
    Request.wantsResultsOnly_withoutNulls honce]

namespace Session

theorem step_withoutNulls (s : Session σ) {st : Step} (honce : st.NamesOnce) :
    s.step st.withoutNulls = s.step st := by
  cases st with
  | dispatch request now answer =>
    show s.step (.dispatch request.withoutNulls now answer) = _
    rw [step_dispatch, step_dispatch, run_withoutNulls s.desk _ honce,
      Request.wantsResultsOnly_withoutNulls honce]
  | _ => rfl

/-- A session without the null members of its requests gives the same reports and ends the same. -/
theorem run_withoutNulls (s : Session σ) {steps : List Step}
    (honce : ∀ st ∈ steps, st.NamesOnce) :
    s.run (steps.map Step.withoutNulls) = s.run steps := by
  induction steps generalizing s with
  | nil => rfl
  | cons st rest ih =>
    have hfirst : s.step st.withoutNulls = s.step st :=
      s.step_withoutNulls (honce st List.mem_cons_self)
    have hrest : ∀ st ∈ rest, st.NamesOnce := fun st' h => honce st' (List.mem_cons_of_mem st h)
    rw [List.map_cons, run_cons, run_cons, hfirst, ih _ hrest]

end Session

/-- A null member of the params of a request counts as an absent one.  Whatever the action, the
state, the time and the answer of the node, dropping all of them changes neither the output, nor
the requests that are sent, nor the id of the next one, nor the store; and dropping them from every
request of a session changes nothing about any step of it. -/
theorem nulls_count_as_absent :
    (∀ (d : Desk) (r : Relay σ) (action : String) (members : List (String × Json)) (bare : Bool)
        (now : Int) (answer : Rpc.Answer), (Keyed.keys members).Nodup →
      d.dispatch r { action, params := .obj (presentMembers members), resultsOnly := bare } now
          answer =
        d.dispatch r { action, params := .obj members, resultsOnly := bare } now answer) ∧
    ∀ (s : Session σ) (steps : List Step), (∀ st ∈ steps, st.NamesOnce) →
      s.run (steps.map Step.withoutNulls) = s.run steps := by
  constructor
  · intro d r action members bare now answer honce
    apply dispatch_withoutNulls d r ⟨action, .obj members, bare⟩
    rintro _ ⟨⟩
    exact honce
  · intro s steps honce
    exact s.run_withoutNulls honce

end Running

/-- The members of a request for the number of the newest block, four of them null. -/
def callWithNulls : List (String × Json) :=
  [("cacheKey", .null), ("method", .str "eth_blockNumber"), ("params", .null),
   ("resultsOnly", .null), ("rpcUrl", .str "u"), ("ttl", .null)]

/-- The two members that are left make the call: it is sent, and its result is given bare. -/
theorem present_members_make_call :
    presentMembers callWithNulls = [("method", .str "eth_blockNumber"), ("rpcUrl", .str "u")] ∧
    (strictDesk.dispatch (.start Memory.empty)
        { action := "rpcCallCached", params := .obj (presentMembers callWithNulls),
          resultsOnly := true } 1 (.reply (.okResult "0x1"))).1.member? "result" =
      some (.str "0x1") := by
  have honce : (Keyed.keys callWithNulls).Nodup := by decide
  refine ⟨by decide, ?_⟩
  rw [nulls_count_as_absent.1 _ _ _ callWithNulls true 1 _ honce]
  decide +kernel

end Action
end RelayDesk
