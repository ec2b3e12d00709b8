import RelayDesk.Json.Reader

/-!
Numbers asked for as integers.  An integer of 64 bits is taken exactly.  Any other number is
taken as a float, by arithmetic that rounds more than once: the leading digits that fit in
64 bits, times or divided by a rounded power of ten.
-/

namespace RelayDesk
namespace Json

open Number

/-- Leading digits, as many as fit in 64 bits together with the number before them; answers with
the number and the count of digits taken. -/
def takeLeading (n : Nat) : List Char → Nat × Nat
  | [] => (n, 0)
  | c :: rest =>
    let m := 10 * n + Text.digitValue c
    if m ≤ maxUnsigned then
      let (k, taken) := takeLeading m rest
      (k, taken + 1)
    else (n, 0)

def floatPow10 (k : Nat) : Binary64 := .ofNat (Nat.pow 10 k)

/-- Scale by a power of ten.  Each pass divides by at most `10 ^ 308`; after three passes nothing
is left of a number of 64 bits. -/
def scaleByPow10 : Nat → Binary64 → Int → Option Binary64
  | 0, x, _ => some x
  | fuel + 1, x, e =>
    match e with
    | .ofNat k =>
      if x.same (.zero false) then some x
      else if k > 308 then none
      else
        let y := x.times (floatPow10 k)
        if y.isFinite then some y else none
    | .negSucc k =>
      if k + 1 ≤ 308 then some (x.dividedBy (floatPow10 (k + 1)))
      else scaleByPow10 fuel (x.dividedBy (floatPow10 308)) (e + 308)

/-- How many digits of an exponent are read before it exceeds 31 bits, if it does. -/
def exponentOverflow? (digits : List Char) : Option Nat :=
  (List.range digits.length).findSome? fun i =>
    if Text.ofDigits 10 (digits.take (i + 1)) > Nat.pow 2 31 - 1 then some (i + 1) else none

/-- The float of a number; none when it is too large. -/
def Numeral.lossyFloat? (n : Numeral) : Option Binary64 :=
  let (lead, taken) := takeLeading 0 n.whole
  let wholeExponent : Nat := n.whole.length - taken
  let (significand, places) := takeLeading lead n.fraction
  let exponent : Int := (wholeExponent : Int) - (places : Int)
  let x := Binary64.ofNat significand
  let scaled := match n.exponent with
    | none => scaleByPow10 4 x exponent
    | some (negative, ds) =>
      let e : Int := Text.ofDigits 10 ds
      if (exponentOverflow? ds).isSome then
        if significand = 0 || negative then some (.zero false) else none
      else scaleByPow10 4 x (if negative then exponent - e else exponent + e)
  scaled.map fun y => if n.negative then y.negate else y

/-- A number asked for as an integer: an integer of 64 bits, or a float. -/
def Numeral.integerOrFloat? (n : Numeral) : Option Found :=
  if n.fraction.isEmpty && n.exponent.isNone then
    let k := Text.ofDigits 10 n.whole
    if !n.negative && k ≤ maxUnsigned then some (.integer k)
    else if n.negative && 0 < k && k ≤ maxSigned + 1 then some (.integer (-(k : Int)))
    else n.lossyFloat?.map .float
  else n.lossyFloat?.map .float

/-- The place at which a number is found to be too large: behind it, or behind the digit of its
exponent that goes too far. -/
def overflowPlace (n : Numeral) (next : Cursor) : Place :=
  match n.exponent with
  | some (_, ds) =>
    match exponentOverflow? ds with
    | some taken => { next.place with column := next.place.column - (ds.length - taken) }
    | none => next.place
  | none => next.place

/-- A number asked for as an integer from `low` to `high`, called `expected`. -/
def readInteger (low high : Int) (expected : String) (cur : Cursor) :
    Except Refusal (Int × Cursor) := do
  let cur := cur.skipBlank
  match cur.rest with
  | [] => .error (cur.refuse .endOfValue)
  | c :: _ =>
    if c = '-' || Text.isDigit c then
      let (n, next) ← readNumeral cur
      match n.integerOrFloat? with
      | none => .error { fault := .numberOutOfRange, place := overflowPlace n next }
      | some (.integer k) =>
        if low ≤ k && k ≤ high then return (k, next)
        else .error (next.refuse (.invalidValue (.integer k) expected))
      | some found => .error (next.refuse (.invalidType found expected))
    else .error (refuseFound expected cur)

end Json
end RelayDesk
