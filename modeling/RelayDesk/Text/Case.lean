import RelayDesk.Text.Basic
import RelayDesk.Text.Case.Table

/-!
Full lowercase.  Every capital has its simple lowercase, with two exceptions: a capital I with a
dot becomes two characters, and a sigma takes its final form at the end of a word.
-/

namespace RelayDesk
namespace Text

def inRanges (ranges : List (Nat × Nat)) (n : Nat) : Bool :=
  ranges.any fun r => r.1 ≤ n && n ≤ r.2

def isCased (c : Char) : Bool := inRanges casedRanges c.toNat

def isCaseIgnorable (c : Char) : Bool := inRanges caseIgnorableRanges c.toNat

/-- The simple lowercase mapping. -/
def lowerChar (c : Char) : Char :=
  match lowerRuns.findSome? (·.lower? c.toNat) with
  | some n => Char.ofNat n
  | none => c

def nextIsCased (cs : List Char) : Bool :=
  match cs.dropWhile isCaseIgnorable with
  | [] => false
  | c :: _ => isCased c

/-- The lowercase of `c` between the characters `before` it, nearest first, and those `after`
it.  A sigma ends a word when a letter stands before it and none after it. -/
def lowerAt (before : List Char) (c : Char) (after : List Char) : List Char :=
  if c = 'Σ' then
    if nextIsCased before && !nextIsCased after then ['ς'] else ['σ']
  else if c = 'İ' then ['i', '\u0307']
  else [lowerChar c]

def lowerFrom (before : List Char) : List Char → List Char
  | [] => []
  | c :: rest => lowerAt before c rest ++ lowerFrom (c :: before) rest

def lowerChars (cs : List Char) : List Char := lowerFrom [] cs

/-- The text in lowercase. -/
def lower (s : String) : String := String.ofList (lowerChars s.toList)

/-- Trimmed and in lowercase, the form in which names are compared. -/
def fold (s : String) : String := lower (trim s)

end Text
end RelayDesk
