import RelayDesk.Action.Params
import RelayDesk.Cache.Call

/-!
The params of a cached call.  What is sent to the node may be given as a value or as JSON text, in
one field or in two that agree; text is keyed as text, a value as a value.
-/

namespace RelayDesk
namespace Action

/-- What is sent to the node, with the text if it was given as text. -/
structure CallParams where
  value : Json
  text : Option String
  deriving DecidableEq, Repr

namespace CallParams

/-- The params in one field, if it is there and not blank. -/
def ofField (p : Params) (name : String) : Except Invalid (Option CallParams) := do
  match ← p.value? [name] with
  | none => return none
  | some (.str s) =>
    let t := Text.trim s
    if t.isEmpty then return none
    else match Json.read t with
      | .ok value => return some { value, text := some t }
      | .error refusal => .error (.callParamsText name refusal)
  | some (.arr items) => return some { value := .arr items, text := none }
  | some (.obj members) => return some { value := .obj members, text := none }
  | some other => .error (.callParamsType name other.text)

/-- Two ways of giving the params, or one, or none, which is an empty list. -/
def join : Option CallParams → Option CallParams → Except Invalid CallParams
  | some a, some b =>
    if Cache.canonicalText a.value = Cache.canonicalText b.value then
      .ok { value := a.value, text := a.text <|> b.text }
    else .error (.disagree "params" "paramsJson")
  | some a, none => .ok a
  | none, some b => .ok b
  | none, none => .ok { value := .arr [], text := none }

def ofParams (p : Params) : Except Invalid CallParams := do
  let structured ← ofField p "params"
  let text ← ofField p "paramsJson"
  join structured text

end CallParams

/-- The key given, or the key of params given as text. -/
def chooseKey (given : Option String) (url method : String) (params : CallParams) :
    Option String :=
  match given with
  | some key => some key
  | none => params.text.map (Cache.keyOfText url method)

def callOfParams (p : Params) : Except Invalid Cache.Call := do
  let url ← p.text ["rpcUrl", "rpc_url", "url"]
  let method ← p.text ["method"]
  let params ← CallParams.ofParams p
  let given ← p.text? ["cacheKey", "cache_key"]
  let ttlSeconds ← p.whole? ["ttlSeconds", "ttl"]
  let maxStaleSeconds ← p.whole? ["maxStaleSeconds", "maxStale"]
  let allowStaleFallback ← p.bool? ["allowStaleFallback", "allowStale"]
  return {
    url, method
    params := params.value
    cacheKey := chooseKey given url method params
    ttlSeconds, maxStaleSeconds, allowStaleFallback }

end Action
end RelayDesk
