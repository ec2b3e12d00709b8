import RelayDesk.Json.Lossy
import RelayDesk.Json.Skip

/-!
Records read straight from text.  A record is written as an object, or as an array of its fields
in their order.  Members that are no field are passed over, a field given twice is refused, and a
field left out keeps its default where it has one.

A record is checked before its closing bracket is read, so a fault of the record as a whole is
placed behind that bracket when the bracket is there.
-/

namespace RelayDesk
namespace Json

/-- A refusal inside a container: at a place of its own, or to be placed where the container
ends. -/
inductive Objection where
  | placed (refusal : Refusal)
  | pending (fault : Fault) (cur : Cursor)

/-- A reader of one field's value, given how deep containers may still be nested in it. -/
abbrev FieldReader (α : Type) := Nat → Cursor → Except Objection (α × Cursor)

structure Field (α : Type) where
  name : String
  required : Bool
  read : FieldReader (α → α)

structure Shape (α : Type) where
  name : String
  /-- The record in which no field has been read. -/
  blank : α
  fields : List (Field α)

def placedReading {β : Type} (r : Except Refusal β) : Except Objection β :=
  r.mapError .placed

/-- End a container: what its body gave, and the attempt to close it from where the body
stopped.  A pending fault is placed where that attempt stops, whether it succeeds or not. -/
def closeBody {α : Type} (close : Cursor → Except Refusal Unit × Cursor) :
    Except Objection (α × Cursor) → Except Refusal (α × Cursor)
  | .error (.placed e) => .error e
  | .error (.pending fault cur) => .error ((close cur).2.refuse fault)
  | .ok (a, cur) => do
    let (closed, cur) := close cur
    closed
    return (a, cur)

namespace Shape

variable {α : Type}

/-- How messages call the record. -/
def expected (s : Shape α) : String := "struct " ++ s.name

/-- How messages call the record written as an array. -/
def expectedElements (s : Shape α) : String :=
  s.expected ++ " with " ++ String.ofList (Text.decimal s.fields.length) ++ " elements"

/-- The fields from position `index` on, as items of an array. -/
def readElements (s : Shape α) (depth : Nat) :
    List (Field α) → Nat → α → Cursor → Except Objection (α × Cursor)
  | [], _, a, cur => .ok (a, cur)
  | f :: rest, index, a, cur => do
    let (more, cur) ← placedReading (nextItem (index == 0) cur)
    if more then
      let (set, cur) ← f.read depth cur
      s.readElements depth rest (index + 1) (set a) cur
    else if f.required then .error (.pending (.invalidLength index s.expectedElements) cur)
    else s.readElements depth rest (index + 1) a cur

def missing? (s : Shape α) (seen : List String) : Option (Field α) :=
  s.fields.find? fun f => f.required && !seen.contains f.name

def readNamed (s : Shape α) (depth : Nat) :
    Nat → List String → α → Cursor → Except Objection (α × Cursor)
  | 0, _, _, cur => .error (.placed (cur.refuse .endOfObject))
  | fuel + 1, seen, a, cur => do
    let (more, cur) ← placedReading (nextKey seen.isEmpty cur)
    if more then
      let (key, cur) ← placedReading (readString cur.advance)
      match s.fields.find? (·.name == key) with
      | some f =>
        if seen.contains key then .error (.pending (.duplicateField key) cur)
        else
          let cur ← placedReading (readColon cur)
          let (set, cur) ← f.read depth cur
          s.readNamed depth fuel (key :: seen) (set a) cur
      | none =>
        let cur ← placedReading (readColon cur)
        let cur ← placedReading (skipValue cur)
        s.readNamed depth fuel (key :: seen) a cur
    else match s.missing? seen with
      | some f => .error (.pending (.missingField f.name) cur)
      | none => .ok (a, cur)

/-- A record inside which containers may still be nested `depth` deep. -/
def read (s : Shape α) (depth : Nat) (cur : Cursor) : Except Refusal (α × Cursor) :=
  let cur := cur.skipBlank
  match cur.rest with
  | [] => .error (cur.refuse .endOfValue)
  | c :: _ =>
    if c = '[' then
      match depth with
      | 0 => .error (cur.refuseNext .nestingLimit)
      | inner + 1 => closeBody closeArray (s.readElements inner s.fields 0 s.blank cur.advance)
    else if c = '\x7b' then
      match depth with
      | 0 => .error (cur.refuseNext .nestingLimit)
      | inner + 1 =>
        closeBody closeObject
          (s.readNamed inner (cur.rest.length + 1) [] s.blank cur.advance)
    else .error (refuseFound s.expected cur)

def readText (s : Shape α) (text : String) : Except Refusal α := do
  let (a, cur) ← s.read nestingLimit (.start text)
  readEnd cur
  return a

end Shape

def readBool (cur : Cursor) : Except Refusal (Bool × Cursor) :=
  let cur := cur.skipBlank
  match cur.rest with
  | [] => .error (cur.refuse .endOfValue)
  | c :: _ =>
    if c = 't' then do return (true, ← cur.advance.word "rue".toList)
    else if c = 'f' then do return (false, ← cur.advance.word "alse".toList)
    else .error (refuseFound "a boolean" cur)

/-- A string, called `expected`. -/
def readText (expected : String) (cur : Cursor) : Except Refusal (String × Cursor) :=
  let cur := cur.skipBlank
  match cur.rest with
  | [] => .error (cur.refuse .endOfValue)
  | c :: _ =>
    if c = '"' then readString cur.advance else .error (refuseFound expected cur)

def readOption {α : Type} (read : Cursor → Except Refusal (α × Cursor)) (cur : Cursor) :
    Except Refusal (Option α × Cursor) :=
  let cur := cur.skipBlank
  match cur.rest with
  | 'n' :: _ => do return (none, ← cur.advance.word "ull".toList)
  | _ => do
    let (a, cur) ← read cur
    return (some a, cur)

def readTextList (depth : Nat) (cur : Cursor) : Except Refusal (List String × Cursor) :=
  let cur := cur.skipBlank
  match cur.rest with
  | [] => .error (cur.refuse .endOfValue)
  | c :: _ =>
    if c = '[' then
      if depth = 0 then .error (cur.refuseNext .nestingLimit)
      else readArray (readText "a string") cur.advance
    else .error (refuseFound "a sequence" cur)

def readTextMap (depth : Nat) (cur : Cursor) :
    Except Refusal (List (String × String) × Cursor) :=
  let cur := cur.skipBlank
  match cur.rest with
  | [] => .error (cur.refuse .endOfValue)
  | c :: _ =>
    if c = '\x7b' then
      if depth = 0 then .error (cur.refuseNext .nestingLimit)
      else readObject (readText "a string") cur.advance
    else .error (refuseFound "a map" cur)

/-- The name of a variant among `variants`, from its quote. -/
def readVariantName {α : Type} (variants : List (String × α)) (cur : Cursor) :
    Except Refusal (α × Cursor) := do
  let (name, cur) ← readString cur.advance
  match variants.find? (·.1 == name) with
  | some v => return (v.2, cur)
  | none => .error (cur.refuse (.unknownVariant name (variants.map (·.1))))

/-- Null, where a variant has no contents. -/
def readUnit (cur : Cursor) : Except Refusal (Unit × Cursor) :=
  let cur := cur.skipBlank
  match cur.rest with
  | [] => .error (cur.refuse .endOfValue)
  | 'n' :: _ => do return ((), ← cur.advance.word "ull".toList)
  | _ => .error (refuseFound "unit" cur)

/-- A variant without contents: its name, or an object with the name as its only key and null as
its value. -/
def readVariant {α : Type} (variants : List (String × α)) (depth : Nat) (cur : Cursor) :
    Except Refusal (α × Cursor) :=
  let cur := cur.skipBlank
  match cur.rest with
  | [] => .error (cur.refuse .endOfValue)
  | c :: _ =>
    if c = '"' then readVariantName variants cur
    else if c = '\x7b' then
      if depth = 0 then .error (cur.refuseNext .nestingLimit)
      else do
        let (more, cur) ← nextKey true cur.advance
        if !more then .error (cur.refuseNext .expectedValue)
        let (v, cur) ← readVariantName variants cur
        let cur ← readColon cur
        let (_, cur) ← readUnit cur
        let cur := cur.skipBlank
        match cur.rest with
        | [] => .error (cur.refuse .endOfObject)
        | d :: _ =>
          if d = '\x7d' then return (v, cur.advance) else .error (cur.refuse .expectedValue)
    else .error (cur.refuseNext .expectedValue)

/-- A field read by `read` and put into the record by `set`. -/
def Field.of {α β : Type} (name : String) (required : Bool)
    (read : Nat → Cursor → Except Refusal (β × Cursor)) (set : β → α → α) : Field α where
  name := name
  required := required
  read depth cur := placedReading do
    let (b, cur) ← read depth cur
    return (set b, cur)

end Json
end RelayDesk
