import RelayDesk.Proofs.Action.Registry
import RelayDesk.Proofs.Action.Writes
import RelayDesk.Proofs.Except

/-!
What a request for an action can come to.  It is barred before its action is reached, or the action
finds a fault by itself, or it answers without an effect, puts a record, or carries out a call.
`run_serves` says this once; what a request leaves behind is read off it by cases.
-/

namespace RelayDesk
namespace Action

open Cache (Attempt Relay Store)

/-! ## Faults of an action's own -/

/-- A fault that an action finds by itself, without a node. -/
def Fault.isOwn : Fault → Bool
  | .validation _ | .unsupported _ | .noRoute _ | .store _ => true
  | .rpc _ | .unknownAction _ | .blocked _ => false

/-- A computation that is refused by faults of its own only. -/
def SelfChecked {α : Type} (x : Except Fault α) : Prop :=
  ∀ fault, x = .error fault → fault.isOwn = true

theorem selfChecked_ok {α : Type} (a : α) : SelfChecked (.ok a) := by
  intro fault h
  cases h

theorem selfChecked_mapError {ε α : Type} {f : ε → Fault} (hf : ∀ cause, (f cause).isOwn = true)
    (x : Except ε α) : SelfChecked (x.mapError f) := by
  intro fault h
  cases x with
  | ok a => cases h
  | error cause =>
    obtain rfl := Except.error.inj h
    exact hf cause

theorem SelfChecked.bind {α β : Type} {x : Except Fault α} {f : α → Except Fault β}
    (hx : SelfChecked x) (hf : ∀ a, SelfChecked (f a)) : SelfChecked (x >>= f) := by
  intro fault h
  rcases bind_eq_error_iff.mp h with hrefused | ⟨a, -, hrefused⟩
  · exact hx fault hrefused
  · exact hf a fault hrefused

theorem isOwn_ofQuote (cause : Quote.Fault) : (Fault.ofQuote cause).isOwn = true := by
  cases cause <;> rfl

/-- Asking for a quote is refused for what is asked or because there is none. -/
theorem selfChecked_quote {α β : Type} (request : Except Invalid α)
    (find : α → Except Quote.Fault β) (shape : β → Json) :
    SelfChecked (do
      let request ← request.mapError .validation
      let quote ← (find request).mapError .ofQuote
      return shape quote) := by
  apply SelfChecked.bind (selfChecked_mapError (fun _ => rfl) request)
  intro request
  apply SelfChecked.bind (selfChecked_mapError isOwn_ofQuote (find request))
  intro quote
  exact selfChecked_ok (shape quote)

section Serving

variable {σ : Type} [Store σ]

theorem selfChecked_cacheGet (r : Relay σ) (p : Params) (now : Int) :
    SelfChecked (cacheGet r p now) := by
  apply SelfChecked.bind (selfChecked_mapError (fun _ => rfl) _)
  intro key
  apply SelfChecked.bind (selfChecked_mapError (fun _ => rfl) _)
  intro record?
  exact selfChecked_ok _

/-! ## What a request can come to -/

/-- What a request may come to at a desk, with the relay after it. -/
inductive Desk.Serves (d : Desk) (r : Relay σ) (request : Request) :
    Except Fault Json × Relay σ → Prop
  | barred {fault : Fault} (hpermit : d.permit request.action = .error fault) :
      Serves d r request (.error fault, r)
  | refused {e : Entry Operation} {fault : Fault} (hpermit : d.permit request.action = .ok e)
      (hown : fault.isOwn = true) : Serves d r request (.error fault, r)
  | answered {e : Entry Operation} (result : Json) (hpermit : d.permit request.action = .ok e) :
      Serves d r request (.ok result, r)
  | put {e : Entry Operation} {w : Write} {store : σ}
      (hpermit : d.permit request.action = .ok e) (hop : e.action = .cachePut)
      (hput : Store.put r.store w.record = .ok store) :
      Serves d r request (.ok w.confirmation, { r with store })
  | called {e : Entry Operation} {x : Attempt} {p : Except Rpc.Failure Cache.Outcome × Relay σ}
      (hpermit : d.permit request.action = .ok e) (hop : e.action = .rpcCallCached)
      (hcarries : Relay.Carries d.config x r p) :
      Serves d r request (actionResult p.1, p.2)

variable {d : Desk} {r : Relay σ} {request : Request}

theorem serves_of_selfChecked {e : Entry Operation} {result : Except Fault Json}
    (hpermit : d.permit request.action = .ok e) (hresult : SelfChecked result) :
    d.Serves r request (result, r) := by
  cases result with
  | ok value => exact .answered value hpermit
  | error fault => exact .refused hpermit (hresult fault rfl)

theorem serves_cachePut {e : Entry Operation} (hpermit : d.permit request.action = .ok e)
    (hop : e.action = .cachePut) (p : Params) (now : Int) :
    d.Serves r request (cachePut r p now) := by
  unfold cachePut
  cases hrecord : recordOfParams p now with
  | error cause => exact .refused hpermit rfl
  | ok record =>
    obtain ⟨w, -, rfl⟩ := recordOfParams_eq_ok_iff.mp hrecord
    dsimp only
    cases hput : Store.put r.store w.record with
    | error fault => exact .refused hpermit rfl
    | ok store => exact .put hpermit hop hput

theorem serves_rpcCallCached {e : Entry Operation} (hpermit : d.permit request.action = .ok e)
    (hop : e.action = .rpcCallCached) (p : Params) (now : Int) (answer : Rpc.Answer) :
    d.Serves r request (rpcCallCached r d.config p now answer) := by
  unfold rpcCallCached
  cases callOfParams p with
  | error cause => exact .refused hpermit rfl
  | ok call =>
    have hcarries := Relay.execute_carries d.config { call, now, answer } r
    have hserves : d.Serves r request _ := .called hpermit hop hcarries
    dsimp only at hserves ⊢
    -- The result decides the shape of the answer only; the relay is the same in both cases.
    split <;> next heq => simpa only [heq, actionResult] using hserves

/-- Every request comes to one of the five ends. -/
theorem Desk.run_serves (d : Desk) (r : Relay σ) (request : Request) (now : Int)
    (answer : Rpc.Answer) : d.Serves r request (d.run r request now answer) := by
  unfold Desk.run
  cases hpermit : d.permit request.action with
  | error fault => exact .barred hpermit
  | ok e =>
    dsimp only
    cases Params.ofJson request.params with
    | error cause => exact .refused hpermit rfl
    | ok p =>
      dsimp only
      unfold Operation.run
      cases hop : e.action with
      | rpcCallCached => exact serves_rpcCallCached hpermit hop p now answer
      | bridgeQuote => exact serves_of_selfChecked hpermit (selfChecked_quote _ _ _)
      | swapQuote => exact serves_of_selfChecked hpermit (selfChecked_quote _ _ _)
      | cachePut => exact serves_cachePut hpermit hop p now
      | cacheGet => exact serves_of_selfChecked hpermit (selfChecked_cacheGet r p now)
      | methodPolicy =>
        exact serves_of_selfChecked hpermit (selfChecked_mapError (fun _ => rfl) _)
      | listActions => exact .answered Action.listActions hpermit

end Serving
end Action
end RelayDesk
