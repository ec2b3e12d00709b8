import RelayDesk.Json.Scan
import RelayDesk.Number.Whole

/-!
Reading JSON values.  Containers may be nested 127 deep.  The nesting still allowed is the
argument on which reading a value recurs; the loop over the items of one container takes the
reader of an item as an argument, so that the two recursions stay apart.
-/

namespace RelayDesk
namespace Json

def nestingLimit : Nat := 127

/-- Before an item of an array: is there one?  The first item has no comma before it. -/
def nextItem (first : Bool) (cur : Cursor) : Except Refusal (Bool × Cursor) :=
  let cur := cur.skipBlank
  match cur.rest with
  | [] => .error (cur.refuse .endOfList)
  | c :: _ =>
    if c = ']' then .ok (false, cur)
    else if first then .ok (true, cur)
    else if c = ',' then
      let cur := cur.advance.skipBlank
      match cur.rest with
      | [] => .error (cur.refuse .endOfValue)
      | d :: _ =>
        if d = ']' then .error (cur.refuseNext .trailingComma) else .ok (true, cur)
    else .error (cur.refuseNext .expectedListComma)

/-- Before a key of an object: is there one?  The cursor then stands at its quote. -/
def nextKey (first : Bool) (cur : Cursor) : Except Refusal (Bool × Cursor) :=
  let cur := cur.skipBlank
  match cur.rest with
  | [] => .error (cur.refuse .endOfObject)
  | c :: _ =>
    if c = '\x7d' then .ok (false, cur)
    else if first then
      if c = '"' then .ok (true, cur) else .error (cur.refuseNext .keyNotString)
    else if c = ',' then
      let cur := cur.advance.skipBlank
      match cur.rest with
      | [] => .error (cur.refuse .endOfValue)
      | d :: _ =>
        if d = '"' then .ok (true, cur)
        else if d = '\x7d' then .error (cur.refuseNext .trailingComma)
        else .error (cur.refuseNext .keyNotString)
    else .error (cur.refuseNext .expectedObjectComma)

def readColon (cur : Cursor) : Except Refusal Cursor :=
  let cur := cur.skipBlank
  match cur.rest with
  | [] => .error (cur.refuse .endOfObject)
  | c :: _ => if c = ':' then .ok cur.advance else .error (cur.refuseNext .expectedColon)

/-- The attempt to close an array: what it found, and where it left the cursor. -/
def closeArray (cur : Cursor) : Except Refusal Unit × Cursor :=
  let cur := cur.skipBlank
  match cur.rest with
  | [] => (.error (cur.refuse .endOfList), cur)
  | c :: _ =>
    if c = ']' then (.ok (), cur.advance)
    else if c = ',' then
      let cur := cur.advance.skipBlank
      let fault := if cur.rest.head? = some ']' then Fault.trailingComma else .trailingCharacters
      (.error (cur.refuseNext fault), cur)
    else (.error (cur.refuseNext .trailingCharacters), cur)

def closeObject (cur : Cursor) : Except Refusal Unit × Cursor :=
  let cur := cur.skipBlank
  match cur.rest with
  | [] => (.error (cur.refuse .endOfObject), cur)
  | c :: _ =>
    if c = '\x7d' then (.ok (), cur.advance)
    else if c = ',' then (.error (cur.refuseNext .trailingComma), cur)
    else (.error (cur.refuseNext .trailingCharacters), cur)

section Containers

variable {α : Type} (item : Cursor → Except Refusal (α × Cursor))

/-- The items of an array up to its bracket, which is left to be closed. -/
def readItems : Nat → Bool → Cursor → Except Refusal (List α × Cursor)
  | 0, _, cur => .error (cur.refuse .endOfList)
  | fuel + 1, first, cur => do
    let (more, cur) ← nextItem first cur
    if more then
      let (x, cur) ← item cur
      let (xs, cur) ← readItems fuel false cur
      return (x :: xs, cur)
    else return ([], cur)

/-- One member of an object, from the quote of its key. -/
def readMember (cur : Cursor) : Except Refusal ((String × α) × Cursor) := do
  let (key, cur) ← readString cur.advance
  let cur ← readColon cur
  let (x, cur) ← item cur
  return ((key, x), cur)

/-- The members of an object up to its brace. -/
def readMembers : Nat → Bool → Cursor → Except Refusal (List (String × α) × Cursor)
  | 0, _, cur => .error (cur.refuse .endOfObject)
  | fuel + 1, first, cur => do
    let (more, cur) ← nextKey first cur
    if more then
      let (m, cur) ← readMember item cur
      let (ms, cur) ← readMembers fuel false cur
      return (m :: ms, cur)
    else return ([], cur)

def readArray (cur : Cursor) : Except Refusal (List α × Cursor) := do
  let (xs, cur) ← readItems item (cur.rest.length + 1) true cur
  let (closed, cur) := closeArray cur
  closed
  return (xs, cur)

def readObject (cur : Cursor) : Except Refusal (List (String × α) × Cursor) := do
  let (ms, cur) ← readMembers item (cur.rest.length + 1) true cur
  let (closed, cur) := closeObject cur
  closed
  return (ms, cur)

end Containers

/-- The key that marks a number written as a string: an object whose first member has this key
is read as that number. -/
def numberKey : String := "$serde_json::private::Number"

/-- What stands at the cursor, where something else was expected. -/
def readFound (cur : Cursor) : Except Refusal (Found × Cursor) :=
  match cur.rest with
  | [] => .error (cur.refuse .expectedValue)
  | c :: _ =>
    if c = 'n' then do return (.null, ← cur.advance.word "ull".toList)
    else if c = 't' then do return (.bool true, ← cur.advance.word "rue".toList)
    else if c = 'f' then do return (.bool false, ← cur.advance.word "alse".toList)
    else if c = '-' || Text.isDigit c then do
      let (n, cur) ← readNumeral cur
      let found := match Number.unsigned? n.chars with
        | some k => Found.integer k
        | none => match n.negative, Number.signed? n.chars with
          | true, some k => if k = 0 then .number else .integer k
          | _, _ => .number
      return (found, cur)
    else if c = '"' then do
      let (s, cur) ← readString cur.advance
      return (.string s, cur)
    else if c = '[' then .ok (.sequence, cur)
    else if c = '\x7b' then .ok (.map, cur)
    else .error (cur.refuseNext .expectedValue)

def refuseFound (expected : String) (cur : Cursor) : Refusal :=
  match readFound cur with
  | .error e => e
  | .ok (found, next) => next.refuse (.invalidType found expected)

/-- The whole of a text as one number. -/
def readNumberText (s : String) : Except Refusal Numeral := do
  let cur := Cursor.start s
  match cur.rest with
  | [] => .error (cur.refuse .endOfValue)
  | c :: _ =>
    if c = '-' || Text.isDigit c then
      let (n, cur) ← (scanNumeral cur).mapError Broken.wholeRefusal
      if cur.rest.isEmpty then return n else .error (cur.refuseNext .invalidNumber)
    else .error (cur.refuseNext .invalidNumber)

/-- The value behind the number key.  A refusal of the string's contents keeps its place within
the string. -/
def readTaggedNumber (cur : Cursor) : Except Refusal (Json × Cursor) :=
  let cur := cur.skipBlank
  match cur.rest with
  | [] => .error (cur.refuse .endOfValue)
  | c :: _ =>
    if c = '"' then do
      let (s, cur) ← readString cur.advance
      let n ← readNumberText s
      return (.num n.text, cur)
    else .error (refuseFound "string containing a number" cur)

/-- Does an object whose members begin here mark a number?  Answers with the cursor behind the
key. -/
def numberMark? (cur : Cursor) : Option Cursor :=
  match nextKey true cur with
  | .ok (true, cur) =>
    match readString cur.advance with
    | .ok (key, cur) => if key = numberKey then some cur else none
    | .error _ => none
  | _ => none

/-- An object or a marked number, behind the brace. -/
def readBraced (item : Cursor → Except Refusal (Json × Cursor)) (cur : Cursor) :
    Except Refusal (Json × Cursor) :=
  match numberMark? cur with
  | some cur => do
    let cur ← readColon cur
    let (v, cur) ← readTaggedNumber cur
    let (closed, cur) := closeObject cur
    closed
    return (v, cur)
  | none => do
    let (ms, cur) ← readObject item cur
    return (object ms, cur)

/-- A value that is no container, from its first character `c`. -/
def readScalar (c : Char) (cur : Cursor) : Except Refusal (Json × Cursor) :=
  if c = 'n' then do return (.null, ← cur.advance.word "ull".toList)
  else if c = 't' then do return (.bool true, ← cur.advance.word "rue".toList)
  else if c = 'f' then do return (.bool false, ← cur.advance.word "alse".toList)
  else if c = '-' || Text.isDigit c then do
    let (n, cur) ← readNumeral cur
    return (.num n.text, cur)
  else if c = '"' then do
    let (s, cur) ← readString cur.advance
    return (.str s, cur)
  else .error (cur.refuseNext .expectedValue)

/-- A value inside which containers may still be nested `depth` deep. -/
def readValue (depth : Nat) (cur : Cursor) : Except Refusal (Json × Cursor) :=
  let cur := cur.skipBlank
  match cur.rest with
  | [] => .error (cur.refuse .endOfValue)
  | c :: _ =>
    if c = '[' then
      match depth with
      | 0 => .error (cur.refuseNext .nestingLimit)
      | inner + 1 => do
        let (xs, cur) ← readArray (readValue inner) cur.advance
        return (.arr xs, cur)
    else if c = '\x7b' then
      match depth with
      | 0 => .error (cur.refuseNext .nestingLimit)
      | inner + 1 => readBraced (readValue inner) cur.advance
    else readScalar c cur

/-- Nothing but blanks may follow. -/
def readEnd (cur : Cursor) : Except Refusal Unit :=
  let cur := cur.skipBlank
  if cur.rest.isEmpty then .ok () else .error (cur.refuseNext .trailingCharacters)

def read (s : String) : Except Refusal Json := do
  let (v, cur) ← readValue nestingLimit (.start s)
  readEnd cur
  return v

end Json
end RelayDesk
