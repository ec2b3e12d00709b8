import RelayDesk.Json.Reader

/-!
Passing over a value that nobody asked for.  The open containers are kept in a list, so nesting
has no limit here, and an escape is not decoded, so half a surrogate pair passes.
-/

namespace RelayDesk
namespace Json

def skipEscape (cur : Cursor) : Except Refusal Cursor :=
  match cur.rest with
  | [] => .error (cur.refuse .endOfString)
  | c :: _ =>
    if c = 'u' then do
      let (_, next) ← hexEscape cur.advance
      return next
    else if (shortEscape? c).isSome then .ok cur.advance
    else .error (cur.refuseNext .invalidEscape)

def skipStringSteps : Nat → Cursor → Except Refusal Cursor
  | 0, cur => .error (cur.refuse .endOfString)
  | fuel + 1, cur =>
    match cur.rest with
    | [] => .error (cur.refuse .endOfString)
    | c :: _ =>
      if c = '"' then .ok cur.advance
      else if c = '\\' then do
        let next ← skipEscape cur.advance
        skipStringSteps fuel next
      else if c.toNat < 0x20 then .error (cur.refuse .controlCharacter)
      else skipStringSteps fuel cur.advance

def skipString (cur : Cursor) : Except Refusal Cursor :=
  skipStringSteps (cur.rest.length + 1) cur

/-- A number.  Here a number cut short is not told apart from a wrong one. -/
def skipNumeral (cur : Cursor) : Except Refusal Cursor :=
  match readNumeral cur with
  | .ok (_, next) => .ok next
  | .error e => .error (if e.fault = .endOfValue then { e with fault := .invalidNumber } else e)

inductive Frame where
  | array
  | object
  deriving DecidableEq, Repr

namespace Frame

def closing : Frame → Char
  | .array => ']'
  | .object => '\x7d'

def endFault : Frame → Fault
  | .array => .endOfList
  | .object => .endOfObject

def commaFault : Frame → Fault
  | .array => .expectedListComma
  | .object => .expectedObjectComma

end Frame

/-- A key and its colon, before the value of a member. -/
def skipKey (cur : Cursor) : Except Refusal Cursor :=
  let cur := cur.skipBlank
  match cur.rest with
  | [] => .error (cur.refuse .endOfObject)
  | c :: _ =>
    if c = '"' then do
      let cur ← skipString cur.advance
      readColon cur
    else .error (cur.refuseNext .keyNotString)

/-- What stands before the value of an item: a key in an object, nothing in an array. -/
def skipLead (frame : Frame) (cur : Cursor) : Except Refusal Cursor :=
  match frame with
  | .array => .ok cur
  | .object => skipKey cur

/-- A value that is no container, from its first character `c`. -/
def skipScalar (c : Char) (cur : Cursor) : Except Refusal Cursor :=
  if c = 'n' then cur.advance.word "ull".toList
  else if c = 't' then cur.advance.word "rue".toList
  else if c = 'f' then cur.advance.word "alse".toList
  else if c = '-' || Text.isDigit c then skipNumeral cur
  else if c = '"' then skipString cur.advance
  else .error (cur.refuseNext .expectedValue)

/-- What is expected next. -/
inductive SkipState where
  | value
  /-- The first item of the innermost container, or its end. -/
  | opened
  /-- A comma, or the end of the innermost container. -/
  | item

/-- Pass over values until no container is open.  No two steps in a row read nothing. -/
def skipSteps : Nat → SkipState → List Frame → Cursor → Except Refusal Cursor
  | 0, _, _, cur => .error (cur.refuse .endOfValue)
  | fuel + 1, .value, frames, cur =>
    let cur := cur.skipBlank
    match cur.rest with
    | [] => .error (cur.refuse .endOfValue)
    | c :: _ =>
      if c = '[' then skipSteps fuel .opened (.array :: frames) cur.advance
      else if c = '\x7b' then skipSteps fuel .opened (.object :: frames) cur.advance
      else do
        let next ← skipScalar c cur
        skipSteps fuel .item frames next
  | _ + 1, _, [], cur => .ok cur
  | fuel + 1, .opened, frame :: frames, cur =>
    let cur := cur.skipBlank
    match cur.rest with
    | [] => .error (cur.refuse frame.endFault)
    | c :: _ =>
      if c = frame.closing then skipSteps fuel .item frames cur.advance
      else do
        let cur ← skipLead frame cur
        skipSteps fuel .value (frame :: frames) cur
  | fuel + 1, .item, frame :: frames, cur =>
    let cur := cur.skipBlank
    match cur.rest with
    | [] => .error (cur.refuse frame.endFault)
    | c :: _ =>
      if c = ',' then do
        let cur ← skipLead frame cur.advance
        skipSteps fuel .value (frame :: frames) cur
      else if c = frame.closing then skipSteps fuel .item frames cur.advance
      else .error (cur.refuseNext frame.commaFault)

def skipValue (cur : Cursor) : Except Refusal Cursor :=
  skipSteps (2 * cur.rest.length + 2) .value [] cur

end Json
end RelayDesk
