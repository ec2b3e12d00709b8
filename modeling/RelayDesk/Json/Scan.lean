import RelayDesk.Json.Cursor
import RelayDesk.Text.Bytes

/-!
The leaves of JSON text: strings and numbers.  A string is read one character or escape at a
time; a number is read into its parts, whose text is its normal form.
-/

namespace RelayDesk
namespace Json

inductive StringStep where
  | finish (next : Cursor)
  | char (c : Char) (next : Cursor)
  | fail (refusal : Refusal)

/-- The refusal where four hexadecimal digits are wanted and something else stands.  Fewer than
four bytes are an unfinished string, four other bytes a bad escape. -/
def refuseHex (cur : Cursor) : Refusal :=
  if Text.byteLength cur.rest < 4 then
    { fault := .endOfString, place := cur.place.afterAll cur.rest }
  else { fault := .invalidEscape, place := cur.place.afterBytes 4 cur.rest }

/-- The value of four hexadecimal digits and the cursor behind them. -/
def hexEscape (cur : Cursor) : Except Refusal (Nat × Cursor) :=
  match cur.rest with
  | a :: b :: c :: d :: _ =>
    if [a, b, c, d].all Text.isHexDigit then
      .ok (Text.ofDigits 16 [a, b, c, d], cur.advance.advance.advance.advance)
    else .error (refuseHex cur)
  | _ => .error (refuseHex cur)

def isHighSurrogate (n : Nat) : Bool := 0xD800 ≤ n && n ≤ 0xDBFF

def isLowSurrogate (n : Nat) : Bool := 0xDC00 ≤ n && n ≤ 0xDFFF

def joinSurrogates (high low : Nat) : Char :=
  Char.ofNat (0x10000 + (high - 0xD800) * 0x400 + (low - 0xDC00))

/-- The second half of a pair whose first half is `high`. -/
def surrogateStep (high : Nat) (cur : Cursor) : StringStep :=
  match cur.rest with
  | [] => .fail (cur.refuse .endOfString)
  | '\\' :: _ =>
    let cur := cur.advance
    match cur.rest with
    | [] => .fail (cur.refuse .endOfString)
    | 'u' :: _ =>
      match hexEscape cur.advance with
      | .error e => .fail e
      | .ok (low, next) =>
        if isLowSurrogate low then .char (joinSurrogates high low) next
        else .fail (next.refuse .loneSurrogate)
    | _ => .fail (cur.refuseNext .unexpectedEndOfEscape)
  | _ => .fail (cur.refuseNext .unexpectedEndOfEscape)

def unicodeStep (cur : Cursor) : StringStep :=
  match hexEscape cur with
  | .error e => .fail e
  | .ok (n, next) =>
    if isLowSurrogate n then .fail (next.refuse .loneSurrogate)
    else if isHighSurrogate n then surrogateStep n next
    else .char (Char.ofNat n) next

/-- The character of a one-letter escape. -/
def shortEscape? : Char → Option Char
  | '"' => some '"'
  | '\\' => some '\\'
  | '/' => some '/'
  | 'b' => some '\x08'
  | 'f' => some '\x0c'
  | 'n' => some '\n'
  | 'r' => some '\r'
  | 't' => some '\t'
  | _ => none

def escapeStep (cur : Cursor) : StringStep :=
  match cur.rest with
  | [] => .fail (cur.refuse .endOfString)
  | c :: _ =>
    if c = 'u' then unicodeStep cur.advance
    else match shortEscape? c with
      | some e => .char e cur.advance
      | none => .fail (cur.refuseNext .invalidEscape)

def stringStep (cur : Cursor) : StringStep :=
  match cur.rest with
  | [] => .fail (cur.refuse .endOfString)
  | c :: _ =>
    if c = '"' then .finish cur.advance
    else if c = '\\' then escapeStep cur.advance
    else if c.toNat < 0x20 then .fail (cur.refuseNext .controlCharacter)
    else .char c cur.advance

/-- Steps up to the closing quote; each takes a character at least, so as many steps as
characters are enough. -/
def stringSteps : Nat → Cursor → Except Refusal (List Char × Cursor)
  | 0, cur => .error (cur.refuse .endOfString)
  | fuel + 1, cur =>
    match stringStep cur with
    | .fail e => .error e
    | .finish next => .ok ([], next)
    | .char c next => do
      let (cs, last) ← stringSteps fuel next
      return (c :: cs, last)

def readString (cur : Cursor) : Except Refusal (String × Cursor) := do
  let (cs, next) ← stringSteps (cur.rest.length + 1) cur
  return (String.ofList cs, next)

/-- The parts of a number.  The exponent always has its sign. -/
structure Numeral where
  negative : Bool
  whole : List Char
  /-- The digits behind the point; empty when there is no point. -/
  fraction : List Char
  /-- The sign and the digits of the exponent. -/
  exponent : Option (Bool × List Char)
  deriving DecidableEq, Repr

namespace Numeral

/-- The normal form: digits as they were written, `e` for the exponent, and its sign. -/
def chars (n : Numeral) : List Char :=
  (if n.negative then ['-'] else []) ++ n.whole ++
    (if n.fraction.isEmpty then [] else '.' :: n.fraction) ++
    match n.exponent with
    | none => []
    | some (negative, ds) => 'e' :: (if negative then '-' else '+') :: ds

def text (n : Numeral) : String := String.ofList n.chars

end Numeral

/-- Where a number breaks off: the fault, the cursor at the character that cannot follow, and
whether that character has been read. -/
structure Broken where
  fault : Fault
  cur : Cursor
  taken : Bool

namespace Broken

def placed (b : Broken) (bytes : Nat) : Refusal :=
  { fault := b.fault, place := b.cur.place.afterBytes bytes b.cur.rest }

/-- The refusal of a number inside a longer text, placed at the character that cannot follow. -/
def refusal (b : Broken) : Refusal := b.placed 1

/-- The refusal of a text that should be one number and nothing else.  What is left behind the
characters that have been read is found at fault. -/
def wholeRefusal (b : Broken) : Refusal := b.placed (if b.taken then 2 else 1)

end Broken

/-- Digits where at least one is needed.  `taken` says whether the first character is read before
it is judged. -/
def someDigits (taken : Bool) (cur : Cursor) : Except Broken (List Char × Cursor) :=
  match cur.digits with
  | ([], _) =>
    .error { fault := if cur.rest.isEmpty then .endOfValue else .invalidNumber, cur, taken }
  | found => .ok found

/-- The whole part: a zero, or digits that do not begin with one. -/
def readWholePart (cur : Cursor) : Except Broken (List Char × Cursor) :=
  match cur.rest with
  | '0' :: c :: _ =>
    if Text.isDigit c then
      .error { fault := .invalidNumber, cur := cur.advance, taken := false }
    else .ok (['0'], cur.advance)
  | _ => someDigits true cur

def readFraction (cur : Cursor) : Except Broken (List Char × Cursor) :=
  match cur.rest with
  | '.' :: _ => someDigits false cur.advance
  | _ => .ok ([], cur)

/-- The sign of an exponent; without one it is positive. -/
def readExponentSign (cur : Cursor) : Bool × Cursor :=
  match cur.rest with
  | '+' :: _ => (false, cur.advance)
  | '-' :: _ => (true, cur.advance)
  | _ => (false, cur)

def readExponent (cur : Cursor) : Except Broken (Option (Bool × List Char) × Cursor) :=
  match cur.rest with
  | c :: _ =>
    if c = 'e' || c = 'E' then do
      let (negative, cur) := readExponentSign cur.advance
      let (ds, cur) ← someDigits true cur
      return (some (negative, ds), cur)
    else .ok (none, cur)
  | [] => .ok (none, cur)

def readSign (cur : Cursor) : Bool × Cursor :=
  match cur.rest with
  | '-' :: _ => (true, cur.advance)
  | _ => (false, cur)

def scanNumeral (cur : Cursor) : Except Broken (Numeral × Cursor) := do
  let (negative, cur) := readSign cur
  let (whole, cur) ← readWholePart cur
  let (fraction, cur) ← readFraction cur
  let (exponent, cur) ← readExponent cur
  return ({ negative, whole, fraction, exponent }, cur)

/-- A number inside a longer text. -/
def readNumeral (cur : Cursor) : Except Refusal (Numeral × Cursor) :=
  (scanNumeral cur).mapError Broken.refusal

end Json
end RelayDesk
