/-!
Floating-point numbers of 64 bits, held as sign, significand and exponent, and the rounding of
a ratio of natural numbers to the nearest of them.  Everything is exact arithmetic on `Nat`, so
a statement about a float is a statement about integers.
-/

namespace RelayDesk
namespace Number

/-- A finite number is `± significand · 2 ^ exponent`.  `ofRatio` gives it in normal form: the
significand has 53 bits, or the exponent is the least one, -1074. -/
inductive Binary64 where
  | nan
  | infinite (negative : Bool)
  | finite (negative : Bool) (significand : Nat) (exponent : Int)
  deriving DecidableEq, Repr

/-- The quotient rounded to the nearest natural number, a tie to the even one. -/
def divRoundEven (num den : Nat) : Nat :=
  let q := num / den
  let r := num % den
  if 2 * r > den || (2 * r == den && q % 2 == 1) then q + 1 else q

/-- The ratio `num / den` divided by `2 ^ e`, again as a ratio. -/
def scaleRatio (num den : Nat) (e : Int) : Nat × Nat :=
  match e with
  | .ofNat k => (num, den * Nat.pow 2 k)
  | .negSucc k => (num * Nat.pow 2 (k + 1), den)

def floorLog2 (num den : Nat) : Int :=
  let e : Int := (num.log2 : Int) - (den.log2 : Int)
  let (n, d) := scaleRatio num den e
  if n < d then e - 1 else e

namespace Binary64

/-- The least exponent, that of the subnormal numbers. -/
def minExponent : Int := -1074

/-- The exponent of the largest numbers. -/
def maxExponent : Int := 971

def zero (negative : Bool) : Binary64 := .finite negative 0 minExponent

/-- The number nearest to `num / den`, a tie to the even significand. -/
def ofRatio (negative : Bool) (num den : Nat) : Binary64 :=
  if num = 0 then zero negative
  else
    let e := max (floorLog2 num den - 52) minExponent
    let (n, d) := scaleRatio num den e
    let m := divRoundEven n d
    let (m, e) := if m = Nat.pow 2 53 then (Nat.pow 2 52, e + 1) else (m, e)
    if e > maxExponent then .infinite negative else .finite negative m e

def ofNat (n : Nat) : Binary64 := ofRatio false n 1

def isFinite : Binary64 → Bool
  | .finite _ _ _ => true
  | _ => false

/-- The magnitude of a finite number as a ratio. -/
def ratio (significand : Nat) : Int → Nat × Nat
  | .ofNat k => (significand * Nat.pow 2 k, 1)
  | .negSucc k => (significand, Nat.pow 2 (k + 1))

/-- The product of two finite numbers, rounded once. -/
def times : Binary64 → Binary64 → Binary64
  | .finite s m e, .finite t n f =>
    let (a, b) := ratio m e
    let (c, d) := ratio n f
    ofRatio (s != t) (a * c) (b * d)
  | _, _ => .nan

/-- The quotient of two finite numbers, rounded once. -/
def dividedBy : Binary64 → Binary64 → Binary64
  | .finite s m e, .finite t n f =>
    let (a, b) := ratio m e
    let (c, d) := ratio n f
    if c = 0 then .nan else ofRatio (s != t) (a * d) (b * c)
  | _, _ => .nan

def negate : Binary64 → Binary64
  | .nan => .nan
  | .infinite s => .infinite !s
  | .finite s m e => .finite (!s) m e

def isPositive : Binary64 → Bool
  | .infinite s => !s
  | .finite s m _ => !s && m != 0
  | .nan => false

def atMost (bound : Nat) : Binary64 → Bool
  | .nan => false
  | .infinite s => s
  | .finite s m e =>
    let (n, d) := ratio m e
    s || n ≤ bound * d

/-- Numerical equality: the two zeros are equal and a NaN equals nothing. -/
def same : Binary64 → Binary64 → Bool
  | .infinite s, .infinite t => s == t
  | .finite s m e, .finite t n f => m == n && (m == 0 || (s == t && e == f))
  | _, _ => false

end Binary64
end Number
end RelayDesk
