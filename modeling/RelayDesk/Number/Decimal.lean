import RelayDesk.Number.Binary64
import RelayDesk.Text.Basic

/-!
Decimal numbers in text, and the float nearest to each.  A mantissa may begin or end with its
point and may carry a sign and an exponent; the names of infinity and of the undefined number
are read in any case of letters.
-/

namespace RelayDesk
namespace Number

structure Decimal where
  negative : Bool
  digits : Nat
  exponent : Int
  deriving DecidableEq, Repr

namespace Decimal

/-- The nearest float.  Magnitudes that are surely above the largest number or below half of the
smallest are settled from the count of digits, before any power of ten is formed. -/
def toBinary64 (d : Decimal) : Binary64 :=
  let lead : Int := ((Text.decimal d.digits).length : Int) + d.exponent
  if d.digits = 0 then .zero d.negative
  else if lead > 310 then .infinite d.negative
  else if lead < -330 then .zero d.negative
  else match d.exponent with
    | .ofNat k => .ofRatio d.negative (d.digits * Nat.pow 10 k) 1
    | .negSucc k => .ofRatio d.negative d.digits (Nat.pow 10 (k + 1))

def readSign : List Char → Bool × List Char
  | '-' :: rest => (true, rest)
  | '+' :: rest => (false, rest)
  | cs => (false, cs)

/-- The exponent part that ends a number: nothing, or `e` with at least one digit. -/
def readExponent? : List Char → Option Int
  | [] => some 0
  | c :: rest =>
    if c = 'e' || c = 'E' then
      let (negative, digits) := readSign rest
      if digits.isEmpty || !digits.all Text.isDigit then none
      else
        let n := Text.ofDigits 10 digits
        some (if negative then -(n : Int) else n)
    else none

/-- An unsigned mantissa with at least one digit and an optional exponent, to the end of the
text. -/
def readUnsigned? (negative : Bool) (cs : List Char) : Option Decimal :=
  let whole := cs.takeWhile Text.isDigit
  let rest := cs.dropWhile Text.isDigit
  let (fraction, rest) := match rest with
    | '.' :: more => (more.takeWhile Text.isDigit, more.dropWhile Text.isDigit)
    | _ => ([], rest)
  if whole.isEmpty && fraction.isEmpty then none
  else
    (readExponent? rest).map fun e =>
      { negative, digits := Text.ofDigits 10 (whole ++ fraction)
        exponent := e - fraction.length }

end Decimal

/-- The float that a text denotes. -/
def Binary64.read? (cs : List Char) : Option Binary64 :=
  let (negative, rest) := Decimal.readSign cs
  let name := String.ofList (rest.map Char.toLower)
  if name = "inf" || name = "infinity" then some (.infinite negative)
  else if name = "nan" then some .nan
  else (Decimal.readUnsigned? negative rest).map Decimal.toBinary64

end Number
end RelayDesk
