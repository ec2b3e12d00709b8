import RelayDesk.Json.Printer
import RelayDesk.Number.Whole
import RelayDesk.Quote.Fault
import RelayDesk.Text.Basic

/-!
Amounts of an asset in its smallest unit: natural numbers of 256 bits.  A product that does not
fit is a fault and never wraps.  Fees are counted in basis points, ten thousand to the whole; a
fee is rounded down, and the input that an output needs is rounded up.
-/

namespace RelayDesk
namespace Quote

/-- The first number that is too large for an amount. -/
def amountLimit : Nat := Nat.pow 2 256

structure Amount where
  val : Nat
  val_lt : val < amountLimit
  deriving DecidableEq, Repr

namespace Amount

instance : Inhabited Amount := ⟨⟨0, by decide⟩⟩

def ofNat? (n : Nat) : Option Amount :=
  if h : n < amountLimit then some ⟨n, h⟩ else none

/-- The product with a number, if it fits. -/
def times? (a : Amount) (n : Nat) : Option Amount := ofNat? (a.val * n)

/-- The quotient, rounded down. -/
def dividedBy (a : Amount) (n : Nat) : Amount :=
  ⟨a.val / n, Nat.lt_of_le_of_lt (Nat.div_le_self _ _) a.val_lt⟩

/-- The next amount.  As words count, zero comes after the last one. -/
def next (a : Amount) : Amount :=
  ⟨(a.val + 1) % amountLimit, Nat.mod_lt _ (by decide)⟩

/-- The quotient, rounded up: the next amount where the division leaves a rest. -/
def dividedUpBy (a : Amount) (n : Nat) : Amount :=
  if a.val % n = 0 then a.dividedBy n else (a.dividedBy n).next

/-- The difference, or zero. -/
def minus (a b : Amount) : Amount :=
  ⟨a.val - b.val, Nat.lt_of_le_of_lt (Nat.sub_le _ _) a.val_lt⟩

/-- The decimal text of an amount. -/
def text (a : Amount) : String := String.ofList (Text.decimal a.val)

/-- An amount of the given digits, called `field`. -/
def ofDigits (field : String) (base : Nat) (digits : List Char) : Except Invalid Amount :=
  match ofNat? (Text.ofDigits base digits) with
  | some a => .ok a
  | none => .error (.amountSize field)

/-- The base and the digits of a trimmed text: hexadecimal behind `0x` or `0X`. -/
def splitBase : List Char → Nat × List Char
  | '0' :: 'x' :: digits => (16, digits)
  | '0' :: 'X' :: digits => (16, digits)
  | digits => (10, digits)

/-- May these characters be digits of the base? -/
def areDigits (base : Nat) (digits : List Char) : Bool :=
  !digits.isEmpty && digits.all (if base = 16 then Text.isHexDigit else Text.isDigit)

/-- The amount that a text spells, in decimal or in hexadecimal digits between blanks. -/
def ofText (field raw : String) : Except Invalid Amount :=
  let (base, digits) := splitBase (Text.trimChars raw.toList)
  if areDigits base digits then ofDigits field base digits
  else .error (.amountText field raw)

/-- The amount that a value denotes: a text, or a natural number of 64 bits. -/
def ofJson (field : String) : Json → Except Invalid Amount
  | .str s => ofText field s
  | .num text =>
    match (Number.unsigned? text.toList).bind ofNat? with
    | some a => .ok a
    | none => .error (.amountNumber field text)
  | other => .error (.amountType field other.text)

end Amount

/-- A whole in basis points. -/
def bpsWhole : Nat := 10000

/-- The part of an amount that a number of basis points takes, rounded down. -/
def bpsPart (a : Amount) (bps : Nat) : Except Invalid Amount :=
  match a.times? bps with
  | some scaled => .ok (scaled.dividedBy bpsWhole)
  | none => .error (.overflow .amountByBps)

/-- What is left of an amount after a fee. -/
def deductBps (a : Amount) (bps : Nat) : Except Invalid Amount := do
  let fee ← bpsPart a bps
  return a.minus fee

/-- What arrives over a bridge. -/
def bridgeOutput (a : Amount) (feeBps : Nat) : Except Invalid Amount := deductBps a feeBps

/-- What a swap of the amount gives: the fee first, then the impact on the rest. -/
def swapOutput (a : Amount) (feeBps impactBps : Nat) : Except Invalid Amount := do
  let rest ← deductBps a feeBps
  deductBps rest impactBps

/-- What a swap needs to give the amount, rounded up.  Nothing is enough when the fee or the
impact takes the whole. -/
def swapInput (out : Amount) (feeBps impactBps : Nat) : Except Invalid (Option Amount) :=
  if feeBps < bpsWhole ∧ impactBps < bpsWhole then
    match out.times? (bpsWhole * bpsWhole) with
    | some scaled => .ok (some (scaled.dividedUpBy ((bpsWhole - feeBps) * (bpsWhole - impactBps))))
    | none => .error (.overflow .outputByScale)
  else .ok none

end Quote
end RelayDesk
