import RelayDesk.Number.Decimal

/-!
The shortest decimal that reads back as a given float, and its layouts.  Grids of one, two, …
significant digits are tried in turn; on each the two neighbours of the float are tested against
the interval of numbers that round to it.  If any point of a grid lies in that interval, so does
one of the two neighbours, so the first grid with a hit has the fewest digits.
-/

namespace RelayDesk
namespace Number

/-- Which of two equally near decimals is taken. -/
inductive Tie where
  | even
  | up
  deriving DecidableEq, Repr

/-- The numbers that round to a float, in units of `2 ^ unit`.  The ends belong to the interval
when the significand is even. -/
structure Interval where
  low : Nat
  value : Nat
  high : Nat
  unit : Int
  closed : Bool
  deriving Repr

/-- The interval of `significand · 2 ^ exponent`.  Below a power of two the neighbour is half as
far away. -/
def Interval.of (significand : Nat) (exponent : Int) : Interval :=
  let halfGap := if significand = Nat.pow 2 52 ∧ exponent > Binary64.minExponent then 1 else 2
  { low := 4 * significand - halfGap, value := 4 * significand, high := 4 * significand + 2
    unit := exponent - 2, closed := significand % 2 == 0 }

def gridRatio (a : Nat) (unit grid : Int) : Nat × Nat :=
  let (n, d) := Binary64.ratio a unit
  match grid with
  | .ofNat k => (n, d * Nat.pow 10 k)
  | .negSucc k => (n * Nat.pow 10 (k + 1), d)

/-- Does `point · 10 ^ grid` lie in the interval? -/
def Interval.holds (i : Interval) (grid : Int) (point : Nat) : Bool :=
  let (ln, ld) := gridRatio i.low i.unit grid
  let (hn, hd) := gridRatio i.high i.unit grid
  if i.closed then ln ≤ point * ld && point * hd ≤ hn
  else ln < point * ld && point * hd < hn

/-- The point of the grid nearest to the value, among its two neighbours in the interval. -/
def Interval.nearest? (i : Interval) (tie : Tie) (grid : Int) : Option Nat :=
  let (n, d) := gridRatio i.value i.unit grid
  let q := n / d
  let r := n % d
  match i.holds grid q, i.holds grid (q + 1) with
  | true, true =>
    let upward := 2 * r > d || (2 * r == d && (tie == .up || q % 2 == 1))
    some (if upward then q + 1 else q)
  | true, false => some q
  | false, true => some (q + 1)
  | false, false => none

/-- The exponent of the leading decimal digit of a positive ratio. -/
def floorLog10 (num den : Nat) : Int :=
  let e : Int := ((Text.decimal num).length : Int) - ((Text.decimal den).length : Int)
  let reaches := match e with
    | .ofNat k => decide (den * Nat.pow 10 k ≤ num)
    | .negSucc k => decide (den ≤ num * Nat.pow 10 (k + 1))
  if reaches then e else e - 1

/-- The fewest digits that read back as the nonzero float, with the exponent of the last.  The
first grid lies above the leading digit: a float just below a power of ten may be that power. -/
def shortest (tie : Tie) (significand : Nat) (exponent : Int) : Nat × Int :=
  let i := Interval.of significand exponent
  let (n, d) := Binary64.ratio significand exponent
  let lead := floorLog10 n d
  let hit := (List.range 18).findSome? fun (k : Nat) =>
    let grid := lead + 1 - (k : Int)
    (i.nearest? tie grid).map fun point => (point, grid)
  hit.getD (0, 0)

/-- How a decimal is laid out. -/
structure Layout where
  tie : Tie
  /-- Is a number with this exponent of its leading digit written without an exponent? -/
  positional : Int → Bool
  /-- What follows a whole number written without an exponent. -/
  wholeMark : List Char

namespace Layout

/-- Every digit in its place, nothing after a whole number, a tie upward. -/
def plain : Layout := { tie := .up, positional := fun _ => true, wholeMark := [] }

/-- Floats in JSON: an exponent outside `10 ^ -5 … 10 ^ 15`, and a fraction otherwise. -/
def json : Layout :=
  { tie := .even, positional := fun e => -5 ≤ e && e ≤ 15, wholeMark := ['.', '0'] }

/-- Digits in their places, with a point where one is needed. -/
def positionalChars (l : Layout) (digits : List Char) (exponent : Int) : List Char :=
  match exponent with
  | .ofNat k => digits ++ List.replicate k '0' ++ l.wholeMark
  | .negSucc k =>
    let places := k + 1
    if digits.length ≤ places then
      ['0', '.'] ++ List.replicate (places - digits.length) '0' ++ digits
    else
      digits.take (digits.length - places) ++ ['.'] ++ digits.drop (digits.length - places)

/-- One digit before the point, and a signed exponent. -/
def scientificChars (digits : List Char) (lead : Int) : List Char :=
  let mantissa := match digits with
    | [] => []
    | [c] => [c]
    | c :: rest => c :: '.' :: rest
  let sign := if lead < 0 then [] else ['+']
  mantissa ++ ['e'] ++ sign ++ Text.decimalInt lead

def magnitudeChars (l : Layout) (significand : Nat) (exponent : Int) : List Char :=
  if significand = 0 then '0' :: l.wholeMark
  else
    let (n, last) := shortest l.tie significand exponent
    let digits := Text.decimal n
    let lead := last + digits.length - 1
    if l.positional lead then l.positionalChars digits last else scientificChars digits lead

def chars (l : Layout) : Binary64 → List Char
  | .nan => "NaN".toList
  | .infinite negative => if negative then "-inf".toList else "inf".toList
  | .finite negative m e =>
    (if negative then ['-'] else []) ++ l.magnitudeChars m e

end Layout

def Binary64.text (x : Binary64) : String := String.ofList (Layout.plain.chars x)

def Binary64.jsonText (x : Binary64) : String := String.ofList (Layout.json.chars x)

end Number
end RelayDesk
