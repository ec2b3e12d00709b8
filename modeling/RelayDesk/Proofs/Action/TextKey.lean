import RelayDesk.Proofs.Action.Blocking
import RelayDesk.Proofs.Action.CallText
import RelayDesk.Proofs.Cache.TextKey

/-!
The key of a call whose params are text.  The action trims the text before it reads it, and keys the
call by what is left.  The key of the text as it was given is the same where nothing but blanks of
JSON were trimmed.
-/

namespace RelayDesk
namespace Action

open Cache (Call Memory Relay Store)
open Json (PaddedPlainly)

/-- How a key comes from an address, a method and the text of params. -/
structure KeyedByTrimmed (url method t key : String) : Prop where
  /-- A blank text is no params at all. -/
  blank : Text.isAllBlank t = true →
    key = Cache.keyOfText url method "[]" ∧ key ≠ Cache.keyOfText url method t
  filled : Text.isAllBlank t = false →
    key = Cache.keyOfText url method (Text.trim t) ∧
    ∃ v, Json.read (Text.trim t) = .ok v ∧ key = Cache.keyOfValue url method v ∧
      (key = Cache.keyOfText url method t ↔
        PaddedPlainly t ∨ Cache.canonicalText v = Text.trim t)

/-! ## Params as text -/

section Fields

variable {p : Params} {name t : String}

theorem CallParams.ofField_of_blank (ht : Text.isAllBlank t = true)
    (h : p.find? name = some (.str t)) : ofField p name = .ok none := by
  unfold ofField
  rw [value?_singleton, h]
  simp only [ok_bind, Text.trim_eq_empty_iff.mpr ht]
  rfl

theorem CallParams.ofField_text_eq_ok {given : Option CallParams}
    (ht : Text.isAllBlank t = false) (h : p.find? name = some (.str t))
    (hfield : ofField p name = .ok given) :
    ∃ v, Json.read (Text.trim t) = .ok v ∧
      given = some { value := v, text := some (Text.trim t) } := by
  have hfilled : (Text.trim t).isEmpty = false := by
    by_contra hempty
    have hnil : Text.trim t = "" := by simpa using hempty
    rw [Text.trim_eq_empty_iff.mp hnil] at ht
    cases ht
  cases hread : Json.read (Text.trim t) with
  | ok v =>
    rw [ofField_of_text hread h] at hfield
    exact ⟨v, rfl, (Except.ok.inj hfield).symm⟩
  | error e =>
    unfold ofField at hfield
    rw [value?_singleton, h] at hfield
    simp only [ok_bind, hfilled, Bool.false_eq_true, if_false, hread] at hfield
    cases hfield

/-- Params that are given as text in one field only are what the trimmed text holds, or an empty
list. -/
theorem CallParams.ofParams_text_eq_ok {given : CallParams} (habsent : p.find? "params" = none)
    (h : p.find? "paramsJson" = some (.str t)) (hgiven : ofParams p = .ok given) :
    (Text.isAllBlank t = true ∧ given = { value := .arr [], text := none }) ∨
      Text.isAllBlank t = false ∧ ∃ v, Json.read (Text.trim t) = .ok v ∧
        given = { value := v, text := some (Text.trim t) } := by
  unfold ofParams at hgiven
  rw [ofField_of_absent habsent, ok_bind] at hgiven
  obtain ⟨field, hfield, hgiven⟩ := bind_eq_ok_iff.mp hgiven
  cases hblank : Text.isAllBlank t with
  | true =>
    rw [ofField_of_blank hblank h] at hfield
    cases hfield
    exact .inl ⟨rfl, (Except.ok.inj hgiven).symm⟩
  | false =>
    obtain ⟨v, hv, rfl⟩ := ofField_text_eq_ok hblank h hfield
    exact .inr ⟨rfl, v, hv, (Except.ok.inj hgiven).symm⟩

end Fields

/-! ## The call -/

section Calls

variable {p : Params} {t : String} {c : Call}

/-- A call with a trimmed text of its params for a key has the key of these params. -/
theorem key_of_trimmed {v : Json} (hread : Json.read (Text.trim t) = .ok v)
    (hkey : c.cacheKey = some (Cache.keyOfText c.url c.method (Text.trim t)))
    (hparams : c.params = v) : c.key = Cache.keyOfValue c.url c.method v := by
  unfold Call.key
  rw [hkey, Cache.keyOfText_of_read c.url c.method hread, hparams, Option.map_some]
  simp only [Cache.trim_keyOfValue_of_readable c.url c.method (Json.readable_of_read hread),
    ite_self]

theorem keyedByTrimmed_of_callOfParams (habsent : p.find? "params" = none)
    (htext : p.find? "paramsJson" = some (.str t))
    (hnone : p.text? ["cacheKey", "cache_key"] = .ok none) (h : callOfParams p = .ok c) :
    p.text ["rpcUrl", "rpc_url", "url"] = .ok c.url ∧ p.text ["method"] = .ok c.method ∧
      KeyedByTrimmed c.url c.method t c.key := by
  unfold callOfParams at h
  simp only [bind_eq_ok_iff] at h
  obtain ⟨url, hurl, method, hmethod, params, hparams, given, hgiven, ttl, -, maxStale, -, allow, -,
    h⟩ := h
  rw [hnone] at hgiven
  cases hgiven
  cases h
  refine ⟨hurl, hmethod, ?_⟩
  rcases CallParams.ofParams_text_eq_ok habsent htext hparams with
    ⟨hblank, rfl⟩ | ⟨hfilled, v, hread, rfl⟩
  · have hnil : Json.read "[]" = .ok (.arr []) := by decide +kernel
    refine ⟨fun _ => ⟨(Cache.keyOfText_of_read url method hnil).symm, ?_⟩, fun hno => ?_⟩
    · exact Cache.keyOfValue_nil_ne_keyOfText hblank
    · rw [hblank] at hno
      cases hno
  · refine ⟨fun hno => ?_, fun _ => ?_⟩
    · rw [hfilled] at hno
      cases hno
    · rw [key_of_trimmed hread rfl rfl, Cache.keyOfText_of_read url method hread]
      exact ⟨rfl, v, hread, rfl, Cache.keyOfValue_eq_keyOfText_iff hread⟩

end Calls

section Requests

variable {σ : Type} [Store σ] {d : Desk} {r after : Relay σ} {request : Request} {now : Int}
  {answer : Rpc.Answer}

/-- A cached call that succeeds reports the key of its call. -/
theorem exists_call_of_ok {e : Entry Operation} {members : List (String × Json)} {result : Json}
    (hfind : builtin.find? request.action = some e) (hop : e.action = .rpcCallCached)
    (hparams : request.params = .obj members)
    (hrun : d.run r request now answer = (.ok result, after)) :
    ∃ c, callOfParams { members } = .ok c ∧ result.member? "cacheKey" = some (.str c.key) := by
  unfold Desk.run at hrun
  cases hpermit : d.permit request.action with
  | error fault =>
    rw [hpermit] at hrun
    cases hrun
  | ok e' =>
    obtain rfl : e = e' := Option.some.inj (hfind.symm.trans (permit_eq_ok hpermit).1)
    have hobject : Params.ofJson (.obj members) = .ok { members } := rfl
    rw [hpermit, hparams, hobject] at hrun
    simp only [Operation.run, hop, rpcCallCached] at hrun
    cases hcall : callOfParams { members } with
    | error cause =>
      rw [hcall] at hrun
      cases hrun
    | ok c =>
      refine ⟨c, rfl, ?_⟩
      rw [hcall] at hrun
      have hcarries := Relay.execute_carries d.config { call := c, now, answer } r
      dsimp only at hrun hcarries
      split at hrun
      · next outcome r' hexecute =>
        cases hrun
        rw [hexecute] at hcarries
        have hkey : outcome.key = c.key := by cases hcarries <;> rfl
        rw [member?_toJson, hkey]
      · cases hrun

/-- A cached call that gives its params as text only, and no key, is keyed by the text without the
blanks at its ends.  That is the key of the text as it was given exactly when these are blanks of
JSON, or when the trimmed text is how a key spells its params. -/
theorem params_text_keyed_trimmed {members : List (String × Json)} {t : String}
    {envelope : Envelope}
    (hop : (builtin.find? request.action).map (·.action) = some .rpcCallCached)
    (hparams : request.params = .obj members)
    (habsent : Params.find? { members } "params" = none)
    (htext : Params.find? { members } "paramsJson" = some (.str t))
    (hnone : Params.text? { members } ["cacheKey", "cache_key"] = .ok none)
    (hanswer : d.answer r request now answer = (envelope, after)) (hok : envelope.status = .ok) :
    ∃ url method key result,
      Params.text { members } ["rpcUrl", "rpc_url", "url"] = .ok url ∧
      Params.text { members } ["method"] = .ok method ∧
      envelope.result = some result ∧ result.member? "cacheKey" = some (.str key) ∧
      KeyedByTrimmed url method t key := by
  obtain ⟨e, hfind, hcached⟩ := Option.map_eq_some_iff.mp hop
  obtain ⟨outcome, after', hrun⟩ : ∃ outcome after', d.run r request now answer =
      (outcome, after') := ⟨_, _, rfl⟩
  unfold Desk.answer at hanswer
  rw [hrun] at hanswer
  cases hanswer
  cases outcome with
  | error fault => cases fault <;> cases hok
  | ok result =>
    obtain ⟨c, hcall, hreported⟩ := exists_call_of_ok hfind hcached hparams hrun
    obtain ⟨hurl, hmethod, hkeyed⟩ := keyedByTrimmed_of_callOfParams habsent htext hnone hcall
    exact ⟨c.url, c.method, c.key, result, hurl, hmethod, rfl, hreported, hkeyed⟩

end Requests

/-- A gas price asked for with an empty list of params, between a no-break space and a line feed. -/
def paddedMembers : List (String × Json) :=
  [("method", .str "eth_gasPrice"), ("paramsJson", .str "\u00a0[ ]\n"), ("rpcUrl", .str "u")]

def paddedRequest : Request where
  action := "rpcCallCached"
  params := .obj paddedMembers
  resultsOnly := false

/-- The answer has the key of the list. -/
theorem padded_list_keyed_trimmed :
    ∃ result, (strictDesk.answer (.start Memory.empty) paddedRequest 1000
        (.reply (.okResult "0x1"))).1.result = some result ∧
      result.member? "cacheKey" = some (.str (Cache.keyOfText "u" "eth_gasPrice" "[ ]")) := by
  have hvalue : Params.find? { members := paddedMembers } "params" = none := by decide +kernel
  have htext : Params.find? { members := paddedMembers } "paramsJson" =
      some (.str "\u00a0[ ]\n") := by decide +kernel
  have hnone : Params.text? { members := paddedMembers } ["cacheKey", "cache_key"] = .ok none := by
    decide +kernel
  obtain ⟨url, method, key, result, hurl, hmethod, hresult, hkey, hkeyed⟩ :=
    params_text_keyed_trimmed (by decide +kernel) rfl hvalue htext hnone
      (rfl : strictDesk.answer (.start Memory.empty) paddedRequest 1000
        (.reply (.okResult "0x1")) = _) (by decide +kernel)
  have hu : Except.ok "u" = (.ok url : Except Invalid String) := hurl ▸ (by decide +kernel)
  have hm : Except.ok "eth_gasPrice" = (.ok method : Except Invalid String) :=
    hmethod ▸ (by decide +kernel)
  cases hu
  cases hm
  have htrim : Text.trim "\u00a0[ ]\n" = "[ ]" := by decide
  obtain ⟨rfl, -⟩ := hkeyed.filled (by decide)
  exact ⟨result, hresult, htrim ▸ hkey⟩

/-- The no-break space is no blank of JSON, so that the text as it was given has another key than
the one that the answer has. -/
theorem padded_list_not_keyed_as_given :
    (strictDesk.answer (.start Memory.empty) paddedRequest 1000
      (.reply (.okResult "0x1"))).1.status = .ok ∧
    (strictDesk.answer (.start Memory.empty) paddedRequest 1000
        (.reply (.okResult "0x1"))).1.result.bind (·.member? "cacheKey") =
      some (.str "u|eth_gasPrice|[]") ∧
    Cache.keyOfText "u" "eth_gasPrice" "\u00a0[ ]\n" = "u|eth_gasPrice|[ ]" := by
  refine ⟨?_, ?_, ?_⟩ <;> decide +kernel

end Action
end RelayDesk
