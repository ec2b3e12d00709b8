import RelayDesk.Proofs.Action.Fields
import RelayDesk.Proofs.Action.Provenance
import RelayDesk.Proofs.Json.Value

/-!
Bare results.  Whether a request wants its result bare is no concern of its action: the member of
params that says so is no field of any action.  It only decides whether a result is given without
its envelope, and a failure keeps its envelope.
-/

namespace RelayDesk
namespace Action

open Cache (Memory Relay Store)
open Params (SameAt)

theorem resultsOnlyKey_not_mem_fields (op : Operation) : resultsOnlyKey ∉ op.fields := by
  cases op <;> decide

/-- Asking for the bare result in the params is seen by no action. -/
theorem sameAt_insert_resultsOnly (op : Operation) (v : Json) (members : List (String × Json)) :
    SameAt op.fields { members := Keyed.insert resultsOnlyKey v members } { members } := by
  apply Params.sameAt_of_members
  intro name hname
  rw [Keyed.find?_insert, if_neg]
  intro heq
  exact resultsOnlyKey_not_mem_fields op (heq ▸ hname)

/-! ## Shapes of answers -/

/-- A failure is shown in its envelope, whatever is wanted. -/
theorem output_ofFault (f : Fault) (bare : Bool) :
    (Envelope.ofFault f).output bare =
      Json.object
        [("status", .str (Envelope.ofFault f).status.name), ("code", .ofNat f.code),
         ("reason", .str f.message), ("kind", .str f.kind)] := by
  cases f <;> rfl

theorem name_status_ofFault_ne (f : Fault) : (Envelope.ofFault f).status.name ≠ "ok" := by
  cases f <;> simp [Envelope.ofFault, Status.name]

/-- The bare output can be told from the plain one. -/
theorem bare_output_of_plain (result : Except Fault Json) :
    (((Envelope.of result).output false).member? "status" = some (.str "ok") →
      ((Envelope.of result).output false).member? "result" =
        some ((Envelope.of result).output true)) ∧
    (((Envelope.of result).output false).member? "status" ≠ some (.str "ok") →
      (Envelope.of result).output true = (Envelope.of result).output false ∧
        ∃ status code reason kind, (Envelope.of result).output false = Json.object
          [("status", .str status), ("code", .ofNat code), ("reason", .str reason),
           ("kind", .str kind)]) := by
  cases result with
  | ok v =>
    have hplain : (Envelope.of (.ok v)).output false =
        Json.object [("status", .str "ok"), ("code", .ofNat 200), ("result", v)] := rfl
    have hbare : (Envelope.of (.ok v)).output true = v := rfl
    rw [hplain, hbare, Json.member?_object, Json.member?_object]
    constructor
    · intro _
      rfl
    · intro h
      exact absurd rfl h
  | error f =>
    have hshown : ∀ bare, (Envelope.of (.error f)).output bare = _ := output_ofFault f
    rw [hshown, hshown, Json.member?_object]
    constructor
    · intro h
      have hname : (Envelope.ofFault f).status.name = "ok" := Json.str.inj (Option.some.inj h)
      exact absurd hname (name_status_ofFault_ne f)
    · intro _
      exact ⟨rfl, _, _, _, _, rfl⟩

section Dispatch

variable {σ : Type} [Store σ]

theorem dispatch_eq (d : Desk) (r : Relay σ) (request : Request) (now : Int)
    (answer : Rpc.Answer) :
    d.dispatch r request now answer =
      ((Envelope.of (d.run r request now answer).1).output request.wantsResultsOnly,
        (d.run r request now answer).2) := rfl

/-- A request whose params say nothing about it may ask for the bare result by its own flag or by a
member of its params.  Either way it sends the same and leaves the same relay as the plain request,
and its answer is the result of the plain answer when that is ok, and the plain answer otherwise. -/
theorem bare_result_of_plain (d : Desk) (r : Relay σ) (action : String)
    (members : List (String × Json)) (now : Int) (answer : Rpc.Answer)
    (hplain : Keyed.find? resultsOnlyKey members = none) :
    ∃ (plain bare : Json) (after : Relay σ),
      d.dispatch r { action, params := .obj members, resultsOnly := false } now answer =
        (plain, after) ∧
      d.dispatch r { action, params := .obj members, resultsOnly := true } now answer =
        (bare, after) ∧
      d.dispatch r
          { action, params := .obj (Keyed.insert resultsOnlyKey (.bool true) members),
            resultsOnly := false } now answer =
        (bare, after) ∧
      (plain.member? "status" = some (.str "ok") → plain.member? "result" = some bare) ∧
      (plain.member? "status" ≠ some (.str "ok") → bare = plain ∧
        ∃ status code reason kind, plain = Json.object
          [("status", .str status), ("code", .ofNat code), ("reason", .str reason),
           ("kind", .str kind)]) := by
  obtain ⟨result, after, hrun⟩ : ∃ result after,
      d.run r { action, params := .obj members, resultsOnly := false } now answer =
        (result, after) := ⟨_, _, rfl⟩
  have hflag : d.run r { action, params := .obj members, resultsOnly := true } now answer =
      (result, after) := hrun
  have hmember : d.run r
      { action, params := .obj (Keyed.insert resultsOnlyKey (.bool true) members),
        resultsOnly := false } now answer = (result, after) := by
    rw [← hrun]
    apply Desk.run_of_operations (p := { members := _ }) (q := { members := members })
    intro op
    exact Operation.run_congr (sameAt_insert_resultsOnly op (.bool true) members) d r now answer
  have hunwanted : Request.wantsResultsOnly
      { action, params := .obj members, resultsOnly := false } = false := by
    simp [Request.wantsResultsOnly, Json.member?, hplain]
  have hwanted : Request.wantsResultsOnly
      { action, params := .obj (Keyed.insert resultsOnlyKey (.bool true) members),
        resultsOnly := false } = true := by
    simp [Request.wantsResultsOnly, Json.member?, Keyed.find?_insert]
  refine ⟨(Envelope.of result).output false, (Envelope.of result).output true, after, ?_, ?_, ?_,
    bare_output_of_plain result⟩
  · rw [dispatch_eq, hrun, hunwanted]
  · rw [dispatch_eq, hflag]
    rfl
  · rw [dispatch_eq, hmember, hwanted]

end Dispatch

/-- The members of a direct write whose value has a wish of its own in it. -/
def nestedWish : List (String × Json) :=
  [("key", .str "k"), ("ttl", .ofNat 5), ("value", .object [("resultsOnly", .bool true)])]

/-- A wish inside the value is none of the request: the plain answer is an envelope. -/
theorem nested_wish_keeps_envelope :
    ∃ plain bare after,
      strictDesk.dispatch (.start Memory.empty)
          { action := "cachePut", params := .obj nestedWish, resultsOnly := false } 1
          (.failure "not asked") = (plain, after) ∧
      strictDesk.dispatch (.start Memory.empty)
          { action := "cachePut",
            params := .obj (Keyed.insert resultsOnlyKey (.bool true) nestedWish),
            resultsOnly := false } 1 (.failure "not asked") = (bare, after) ∧
      plain.member? "result" = some bare := by
  obtain ⟨plain, bare, after, hplain, -, hmember, hok, -⟩ := bare_result_of_plain strictDesk
    (.start Memory.empty) "cachePut" nestedWish 1 (.failure "not asked") (by decide +kernel)
  have hstatus : plain.member? "status" = some (.str "ok") := by
    have hshown := congrArg (fun p => p.1.member? "status") hplain
    rw [← hshown]
    decide +kernel
  exact ⟨plain, bare, after, hplain, hmember, hok hstatus⟩

end Action
end RelayDesk
