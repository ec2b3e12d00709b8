import RelayDesk.Proofs.Action.BareResult
import RelayDesk.Proofs.Cache.Execute
import RelayDesk.Proofs.Cache.KeyEnds
import RelayDesk.Proofs.Except

/-!
Params of a call as text and as a value.  Text is read before anything is done with it, and what it
is keyed by is the key of the value that it reads as.  So it makes no difference in which of the two
fields a container is given, as itself or as its text, or in both.
-/

namespace RelayDesk
namespace Action

open Cache (Call Memory Relay Store)
open Params (SameAt)

/-! ## Members given or left out -/

/-- The members with a value under a name, or without that name. -/
def setMember (name : String) (value? : Option Json) (members : List (String × Json)) :
    List (String × Json) :=
  match value? with
  | some v => Keyed.insert name v members
  | none => Keyed.erase name members

theorem find?_setMember (name k : String) (value? : Option Json) (members : List (String × Json)) :
    Keyed.find? k (setMember name value? members) =
      if name = k then value? else Keyed.find? k members := by
  cases value? with
  | some v => exact Keyed.find?_insert name k v members
  | none => exact Keyed.find?_erase name k members

namespace CallParams

/-- The ways of giving a container of params: as it is, as text in either field, or in both. -/
inductive Form where
  | value
  | text
  | textInPlace
  | both
  deriving DecidableEq, Repr

/-- What a form has under `params` for a value and a text of it. -/
def Form.params? (v : Json) (t : String) : Form → Option Json
  | .value | .both => some v
  | .text => none
  | .textInPlace => some (.str t)

/-- What a form has under `paramsJson` for a text. -/
def Form.paramsJson? (t : String) : Form → Option Json
  | .value | .textInPlace => none
  | .text | .both => some (.str t)

/-- The members of a request that gives its params in a form, among others. -/
def Form.members (form : Form) (v : Json) (t : String) (others : List (String × Json)) :
    List (String × Json) :=
  setMember "params" (form.params? v t) (setMember "paramsJson" (form.paramsJson? t) others)

/-- The text by which params in a form are keyed. -/
def Form.keyText? (t : String) : Form → Option String
  | .value => none
  | .text | .textInPlace | .both => some (Text.trim t)

theorem Form.eq_trim_of_keyText? {form : Form} {t text : String} (h : text ∈ form.keyText? t) :
    text = Text.trim t := by
  cases form with
  | value => cases h
  | _ => exact (Option.some.inj h).symm

theorem find?_members (form : Form) (v : Json) (t : String) (others : List (String × Json))
    (name : String) :
    Keyed.find? name (form.members v t others) =
      if "params" = name then form.params? v t
      else if "paramsJson" = name then form.paramsJson? t
      else Keyed.find? name others := by
  unfold Form.members
  rw [find?_setMember, find?_setMember]

/-- The other fields are the same in all forms. -/
theorem sameAt_members (form form' : Form) (v : Json) (t : String)
    (others : List (String × Json)) {names : List String}
    (hother : ∀ name ∈ names, "params" ≠ name ∧ "paramsJson" ≠ name) :
    SameAt names { members := form.members v t others }
      { members := form'.members v t others } := by
  apply Params.sameAt_of_members
  intro name hname
  obtain ⟨hparams, hparamsJson⟩ := hother name hname
  rw [find?_members, find?_members, if_neg hparams, if_neg hparamsJson, if_neg hparams,
    if_neg hparamsJson]

/-! ## Reading the fields -/

theorem value?_singleton (p : Params) (name : String) : p.value? [name] = .ok (p.find? name) := by
  unfold Params.value? Params.agree Params.agreeFrom
  cases p.find? name with
  | none => rfl
  | some v => rfl

section Reading

variable {p : Params} {name t : String} {v : Json}

theorem ofField_of_absent (h : p.find? name = none) : ofField p name = .ok none := by
  unfold ofField
  rw [value?_singleton, h]
  rfl

theorem ofField_of_container (hv : v.isContainer = true) (h : p.find? name = some v) :
    ofField p name = .ok (some { value := v, text := none }) := by
  unfold ofField
  rw [value?_singleton, h]
  cases v with
  | arr items => rfl
  | obj members => rfl
  | _ => cases hv

theorem ofField_of_text (ht : Json.read (Text.trim t) = .ok v) (h : p.find? name = some (.str t)) :
    ofField p name = .ok (some { value := v, text := some (Text.trim t) }) := by
  have hfilled : (Text.trim t).isEmpty = false := by
    by_contra hempty
    have hnil : Text.trim t = "" := by simpa using hempty
    have hnothing : (Json.read "").toBool = false := by decide +kernel
    rw [← hnil, ht] at hnothing
    cases hnothing
  unfold ofField
  rw [value?_singleton, h]
  simp only [ok_bind, hfilled, Bool.false_eq_true, if_false, ht]
  rfl

end Reading

theorem find?_of_members {members : List (String × Json)} {name : String} {value? : Option Json}
    (h : Keyed.find? name members = value?) (hnull : value? ≠ some .null) :
    Params.find? { members } name = value? := by
  unfold Params.find?
  rw [h]
  split
  · exact absurd rfl hnull
  · rfl

/-- In every form the params are the value, keyed by its text if that is given. -/
theorem ofParams_members {v : Json} {t : String} (hv : v.isContainer = true)
    (ht : Json.read (Text.trim t) = .ok v) (form : Form) (others : List (String × Json)) :
    ofParams { members := form.members v t others } =
      .ok { value := v, text := form.keyText? t } := by
  have hvalue : (some v : Option Json) ≠ some .null := by
    rintro ⟨⟩
    cases hv
  have htext : (some (.str t) : Option Json) ≠ some .null := nofun
  have hparams := find?_members form v t others "params"
  have hparamsJson := find?_members form v t others "paramsJson"
  rw [if_pos rfl] at hparams
  rw [if_neg (by decide), if_pos rfl] at hparamsJson
  unfold ofParams
  cases form with
  | value =>
    rw [ofField_of_container hv (find?_of_members hparams hvalue),
      ofField_of_absent (find?_of_members hparamsJson nofun)]
    rfl
  | text =>
    rw [ofField_of_absent (find?_of_members hparams nofun),
      ofField_of_text ht (find?_of_members hparamsJson htext)]
    rfl
  | textInPlace =>
    rw [ofField_of_text ht (find?_of_members hparams htext),
      ofField_of_absent (find?_of_members hparamsJson nofun)]
    rfl
  | both =>
    rw [ofField_of_container hv (find?_of_members hparams hvalue),
      ofField_of_text ht (find?_of_members hparamsJson htext)]
    simp only [ok_bind, join, if_true]
    rfl

end CallParams

/-! ## Calls -/

/-- Only a cached call has fields for params of its own. -/
theorem ne_params_of_mem_fields {op : Operation} (hop : op ≠ .rpcCallCached) :
    ∀ name ∈ op.fields, "params" ≠ name ∧ "paramsJson" ≠ name := by
  cases op <;> first | decide | exact absurd rfl hop

/-- A call keyed by the text of its params as well, where it has no key of its own. -/
def keyedBy (params : CallParams) (c : Call) : Call :=
  { c with cacheKey := chooseKey c.cacheKey c.url c.method params }

/-- The fields of a call beside its params. -/
def callFields : List String :=
  ["rpcUrl", "rpc_url", "url", "method", "cacheKey", "cache_key", "ttlSeconds", "ttl",
   "maxStaleSeconds", "maxStale", "allowStaleFallback", "allowStale"]

section Calls

variable {p q : Params} {v : Json} {text : Option String}

/-- Params with a text differ from those without one in the key of the call only. -/
theorem callOfParams_keyedBy (hsame : SameAt callFields p q)
    (hp : CallParams.ofParams p = .ok { value := v, text })
    (hq : CallParams.ofParams q = .ok { value := v, text := none }) :
    callOfParams p = keyedBy { value := v, text } <$> callOfParams q := by
  unfold callOfParams
  rw [hsame.text ["rpcUrl", "rpc_url", "url"] (by decide), hsame.text ["method"] (by decide), hp, hq,
    hsame.text? ["cacheKey", "cache_key"] (by decide), hsame.whole? ["ttlSeconds", "ttl"] (by decide),
    hsame.whole? ["maxStaleSeconds", "maxStale"] (by decide),
    hsame.bool? ["allowStaleFallback", "allowStale"] (by decide)]
  simp only [ok_bind, map_bind, map_pure]
  apply bind_congr
  intro url
  apply bind_congr
  intro method
  apply bind_congr
  intro given
  cases given with
  | none => rfl
  | some key => rfl

theorem params_of_callOfParams {c : Call}
    (hq : CallParams.ofParams q = .ok { value := v, text }) (h : callOfParams q = .ok c) :
    c.params = v := by
  unfold callOfParams at h
  rw [hq] at h
  simp only [bind_eq_ok_iff, ok_bind] at h
  obtain ⟨url, -, method, -, given, -, ttl, -, maxStale, -, allow, -, h⟩ := h
  obtain rfl := Except.ok.inj h
  rfl

/-- Text that reads as the params keys the call as the params do. -/
theorem key_keyedBy {c : Call} (hv : c.params.isContainer = true)
    (htext : ∀ t ∈ text, Json.read t = .ok c.params) :
    (keyedBy { value := v, text } c).key = c.key := by
  unfold keyedBy Call.key
  cases hkey : c.cacheKey with
  | some key => rfl
  | none =>
    cases text with
    | none => rfl
    | some t =>
      have hread := htext t rfl
      show (if _ then _ else _) = _
      simp only [Cache.keyOfText, hread, Cache.trim_keyOfValue c.url c.method hv, ite_self]
      rfl

end Calls

section Forms

variable {σ : Type} [Store σ]

/-- A call in any form comes to what it comes to with its params as a value. -/
theorem rpcCallCached_members {v : Json} {t : String} (hv : v.isContainer = true)
    (ht : Json.read (Text.trim t) = .ok v) (form : CallParams.Form)
    (others : List (String × Json)) (r : Relay σ) (config : Cache.Config) (now : Int)
    (answer : Rpc.Answer) :
    rpcCallCached r config { members := form.members v t others } now answer =
      rpcCallCached r config { members := CallParams.Form.value.members v t others } now
        answer := by
  have hform := CallParams.ofParams_members hv ht form others
  have hvalue := CallParams.ofParams_members hv ht .value others
  have hsame : SameAt callFields { members := form.members v t others }
      { members := CallParams.Form.value.members v t others } :=
    CallParams.sameAt_members form .value v t others (by decide)
  unfold rpcCallCached
  rw [callOfParams_keyedBy hsame hform hvalue]
  cases hcall : callOfParams { members := CallParams.Form.value.members v t others } with
  | error cause => rfl
  | ok c =>
    obtain rfl := params_of_callOfParams hvalue hcall
    have hkey : (keyedBy { value := c.params, text := form.keyText? t } c).key = c.key := by
      apply key_keyedBy hv
      intro text htext
      rw [CallParams.Form.eq_trim_of_keyText? htext]
      exact ht
    have hexecute : r.execute config (keyedBy { value := c.params, text := form.keyText? t } c) now
        answer = r.execute config c now answer := r.execute_of_key_eq config now answer hkey
    simp only [map_ok, hexecute]

/-- A request with params in a form comes to what it comes to with them as a value. -/
theorem run_members {v : Json} {t : String} (hv : v.isContainer = true)
    (ht : Json.read (Text.trim t) = .ok v) (form : CallParams.Form)
    (others : List (String × Json)) (d : Desk) (r : Relay σ) (action : String) (bare : Bool)
    (now : Int) (answer : Rpc.Answer) :
    d.run r { action, params := .obj (form.members v t others), resultsOnly := bare } now answer =
      d.run r
        { action, params := .obj (CallParams.Form.value.members v t others), resultsOnly := bare }
        now answer := by
  apply Desk.run_of_operations (p := { members := form.members v t others })
    (q := { members := CallParams.Form.value.members v t others })
  intro op
  by_cases hop : op = .rpcCallCached
  · subst hop
    exact rpcCallCached_members hv ht form others r d.config now answer
  · apply Operation.run_congr
    exact CallParams.sameAt_members form .value v t others (ne_params_of_mem_fields hop)

/-- It makes no difference to a request in which form it gives params that are a container: as a
value, as text in either field, or in both fields.  The envelope, the answer, what is sent and the
relay afterwards are the same. -/
theorem forms_of_params_agree (d : Desk) (r : Relay σ) (action : String) (bare : Bool)
    (others : List (String × Json)) (now : Int) (answer : Rpc.Answer) {v : Json} {t : String}
    (hv : v.isContainer = true) (ht : Json.read (Text.trim t) = .ok v)
    (form form' : CallParams.Form) :
    d.answer r { action, params := .obj (form.members v t others), resultsOnly := bare } now
        answer =
      d.answer r { action, params := .obj (form'.members v t others), resultsOnly := bare } now
        answer ∧
    d.dispatch r { action, params := .obj (form.members v t others), resultsOnly := bare } now
        answer =
      d.dispatch r { action, params := .obj (form'.members v t others), resultsOnly := bare } now
        answer := by
  have hrun := (run_members hv ht form others d r action bare now answer).trans
    (run_members hv ht form' others d r action bare now answer).symm
  have hwish : Request.wantsResultsOnly
        { action, params := .obj (form.members v t others), resultsOnly := bare } =
      Request.wantsResultsOnly
        { action, params := .obj (form'.members v t others), resultsOnly := bare } := by
    have hfind (form : CallParams.Form) :
        (Json.obj (form.members v t others)).member? resultsOnlyKey =
          Keyed.find? resultsOnlyKey others :=
      CallParams.find?_members form v t others resultsOnlyKey
    unfold Request.wantsResultsOnly
    rw [hfind, hfind]
  constructor
  · unfold Desk.answer
    rw [hrun]
  · rw [dispatch_eq, dispatch_eq, hrun, hwish]

end Forms

/-- The balance of an account, as text with blanks around it. -/
def balanceText : String := "\u3000[ \"0xAB\" , \"latest\" ]\n"

def balanceParams : Json := .arr [.str "0xAB", .str "latest"]

def balanceFields : List (String × Json) :=
  [("method", .str "eth_getBalance"), ("url", .str "u/")]

def balanceRequest (form : CallParams.Form) : Request where
  action := "rpcCallCached"
  params := .obj (form.members balanceParams balanceText balanceFields)
  resultsOnly := false

/-- The balance is answered alike to its text, written in the place of the value, and to the
value. -/
theorem balance_asked_by_text :
    strictDesk.answer (.start Memory.empty) (balanceRequest .textInPlace) 1
        (.reply (.okResult "0x1")) =
      strictDesk.answer (.start Memory.empty) (balanceRequest .value) 1
        (.reply (.okResult "0x1")) ∧
    (strictDesk.answer (.start Memory.empty) (balanceRequest .textInPlace) 1
      (.reply (.okResult "0x1"))).1.status = .ok := by
  have hread : Json.read (Text.trim balanceText) = .ok balanceParams := by decide +kernel
  have hagree := (forms_of_params_agree strictDesk (.start Memory.empty) "rpcCallCached" false
    balanceFields 1 (.reply (.okResult "0x1")) rfl hread .textInPlace .value).1
  refine ⟨hagree, ?_⟩
  decide +kernel

end Action
end RelayDesk
