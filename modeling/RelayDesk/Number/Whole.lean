import RelayDesk.Text.Basic

/-!
Whole numbers of bounded size written in decimal.  The text is read from the left, so of two
faults the one that comes first is reported, and at one digit the digit before the size.
-/

namespace RelayDesk
namespace Number

/-- The largest unsigned number of 64 bits. -/
def maxUnsigned : Nat := Nat.pow 2 64 - 1

/-- The largest signed number of 64 bits. -/
def maxSigned : Nat := Nat.pow 2 63 - 1

/-- Why a text is not a whole number. -/
inductive WholeFault where
  | empty
  | digit
  | size
  deriving DecidableEq, Repr

def WholeFault.message : WholeFault → String
  | .empty => "cannot parse integer from empty string"
  | .digit => "invalid digit found in string"
  | .size => "number too large to fit in target type"

/-- Continue a number of value `n` with more digits. -/
def readDigits (bound : Nat) : Nat → List Char → Except WholeFault Nat
  | n, [] => .ok n
  | n, c :: rest =>
    if Text.isDigit c then
      let m := 10 * n + Text.digitValue c
      if m ≤ bound then readDigits bound m rest else .error .size
    else .error .digit

/-- Digits with an optional plus sign before them. -/
def readWhole (bound : Nat) : List Char → Except WholeFault Nat
  | [] => .error .empty
  | ['+'] => .error .digit
  | '+' :: rest => readDigits bound 0 rest
  | cs => readDigits bound 0 cs

/-- An unsigned number of 64 bits. -/
def readUnsigned (cs : List Char) : Except WholeFault Nat := readWhole maxUnsigned cs

def unsigned? (cs : List Char) : Option Nat := (readUnsigned cs).toOption

/-- A signed number of 64 bits; the negative side reaches one further. -/
def signed? : List Char → Option Int
  | ['-'] => none
  | '-' :: rest => (readDigits (maxSigned + 1) 0 rest).toOption.map fun n => -(n : Int)
  | cs => (readWhole maxSigned cs).toOption.map Int.ofNat

end Number
end RelayDesk
