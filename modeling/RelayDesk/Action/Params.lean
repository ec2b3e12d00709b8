import RelayDesk.Action.Fault
import RelayDesk.Number.Decimal
import RelayDesk.Quote.Amount
import RelayDesk.Text.Basic

/-!
Params of an action, with fields that may be spelt in several ways.  A field whose value is null
counts as absent.  When more than one spelling of a field is present, they must agree.
-/

namespace RelayDesk
namespace Action

structure Params where
  members : List (String × Json)
  deriving DecidableEq, Repr

namespace Params

/-- Params from a value: an object, or null for none. -/
def ofJson : Json → Except Invalid Params
  | .null => .ok { members := [] }
  | .obj members => .ok { members }
  | other => .error (.notObject other.text)

def find? (p : Params) (name : String) : Option Json :=
  match Keyed.find? name p.members with
  | some .null => none
  | found => found

def contains (p : Params) (name : String) : Bool := (p.find? name).isSome

def anyPresent (p : Params) (names : List String) : Bool := names.any p.contains

/-- Agreement of the spellings: read from the first to the last, with what the first of them was
found to mean.  A reader may find that a value that is present means nothing. -/
def agreeFrom {α : Type} (p : Params) (read : String → Json → Except Invalid (Option α))
    (same : α → α → Bool) : Option (String × α) → List String → Except Invalid (Option α)
  | found, [] => .ok (found.map (·.2))
  | found, name :: rest =>
    match p.find? name with
    | none => p.agreeFrom read same found rest
    | some v => do
      match ← read name v, found with
      | none, _ => p.agreeFrom read same found rest
      | some a, none => p.agreeFrom read same (some (name, a)) rest
      | some a, some (first, b) =>
        if same b a then p.agreeFrom read same found rest
        else .error (.disagree first name)

/-- What the spellings of a field mean together. -/
def agree {α : Type} (p : Params) (read : String → Json → Except Invalid (Option α))
    (same : α → α → Bool) (names : List String) : Except Invalid (Option α) :=
  p.agreeFrom read same none names

def value? (p : Params) (names : List String) : Except Invalid (Option Json) :=
  p.agree (fun _ v => .ok (some v)) (· == ·) names

/-- A trimmed text, or the text of a number; an empty one means nothing. -/
def readText (name : String) : Json → Except Invalid (Option String)
  | .str s =>
    let t := Text.trim s
    .ok (if t.isEmpty then none else some t)
  | .num text => .ok (some text)
  | other => .error (.notString name other.text)

def text? (p : Params) (names : List String) : Except Invalid (Option String) :=
  p.agree readText (· == ·) names

/-- A text that must be there, called by the first spelling. -/
def text (p : Params) (names : List String) : Except Invalid String := do
  match ← p.text? names with
  | some s => return s
  | none => .error (.missing (names.headD ""))

/-- A natural number of 64 bits, as a number or as text. -/
def readWhole (name : String) (v : Json) : Except Invalid (Option Nat) :=
  let n := match v with
    | .num text => Number.unsigned? text.toList
    | .str s => Number.unsigned? (Text.trimChars s.toList)
    | _ => none
  match n with
  | some n => .ok (some n)
  | none => .error (.notWhole name v.text)

def whole? (p : Params) (names : List String) : Except Invalid (Option Nat) :=
  p.agree readWhole (· == ·) names

def boolOfText? (s : String) : Option Bool :=
  let t := Text.asciiLower (Text.trim s)
  if t = "true" then some true else if t = "false" then some false else none

def readBool (name : String) (v : Json) : Except Invalid (Option Bool) :=
  let b := match v with
    | .bool b => some b
    | .str s => boolOfText? s
    | _ => none
  match b with
  | some b => .ok (some b)
  | none => .error (.notBool name v.text)

def bool? (p : Params) (names : List String) : Except Invalid (Option Bool) :=
  p.agree readBool (· == ·) names

def readFloat (name : String) (v : Json) : Except Invalid (Option Number.Binary64) :=
  let x := match v with
    | .num text => Number.Binary64.read? text.toList
    | .str s => Number.Binary64.read? (Text.trimChars s.toList)
    | _ => none
  match x.filter (·.isFinite) with
  | some x => .ok (some x)
  | none => .error (.notNumber name v.text)

def float? (p : Params) (names : List String) : Except Invalid (Option Number.Binary64) :=
  p.agree readFloat Number.Binary64.same names

/-- An amount, however it is spelt. -/
def readAmount (name : String) (v : Json) : Except Invalid (Option Quote.Amount) :=
  match Quote.Amount.ofJson name v with
  | .ok a => .ok (some a)
  | .error cause => .error (.quote cause)

def amount? (p : Params) (names : List String) : Except Invalid (Option Quote.Amount) :=
  p.agree readAmount (· == ·) names

/-- The entries of a list given as text or as an array of strings. -/
def readEntries (name : String) : Json → Except Invalid (List String)
  | .str s => .ok ((s.toList.splitOn ',').map String.ofList)
  | .arr items => items.mapM fun item =>
    match item with
    | .str s => .ok s
    | other => .error (.listEntry name other.text)
  | other => .error (.notList name other.text)

/-- A list of names, folded and without blank ones; a list without names means nothing. -/
def list? (p : Params) (names : List String) : Except Invalid (Option (List String)) := do
  match ← p.value? names with
  | none => return none
  | some v =>
    let entries ← readEntries (names.headD "") v
    let folded := (entries.map Text.fold).filter fun s => !s.isEmpty
    return if folded.isEmpty then none else some folded

end Params
end Action
end RelayDesk
