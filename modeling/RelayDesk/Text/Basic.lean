/-!
Texts, character by character: letters and digits of ASCII, blanks, and one text in another.
-/

namespace RelayDesk
namespace Text

/-! ## Letters and digits

`Char.toLower` knows the letters of ASCII only, which is what a comparison of provider names and
asset symbols wants: `K` (the Kelvin sign) is not a `k` here. -/

/-- Lowercase the letters `A` to `Z` and keep everything else. -/
def asciiLower (s : String) : String :=
  String.ofList (s.toList.map Char.toLower)

/-- Equal up to the case of ASCII letters. -/
def sameLetters (a b : String) : Bool :=
  asciiLower a == asciiLower b

def isDigit (c : Char) : Bool := '0' ≤ c && c ≤ '9'

def isHexDigit (c : Char) : Bool :=
  isDigit c || ('a' ≤ c && c ≤ 'f') || ('A' ≤ c && c ≤ 'F')

/-- The value of a digit in any base up to sixteen. -/
def digitValue (c : Char) : Nat :=
  if isDigit c then c.toNat - '0'.toNat
  else if 'a' ≤ c && c ≤ 'f' then c.toNat - 'a'.toNat + 10
  else if 'A' ≤ c && c ≤ 'F' then c.toNat - 'A'.toNat + 10
  else 0

/-- The number that digits spell in `base`, most significant first, starting from `start`. -/
def foldDigits (base start : Nat) (cs : List Char) : Nat :=
  cs.foldl (fun n c => base * n + digitValue c) start

def ofDigits (base : Nat) (cs : List Char) : Nat := foldDigits base 0 cs

/-- The decimal digits of `n`, most significant first. -/
def decimal (n : Nat) : List Char := Nat.toDigits 10 n

/-- The decimal text of an integer. -/
def decimalInt : Int → List Char
  | .ofNat n => decimal n
  | .negSucc n => '-' :: decimal (n + 1)

/-! ## Blanks

A character is blank when it has the property White_Space of Unicode; the zero-width space and the
byte order mark do not have it. -/

/-- The property White_Space. -/
def isBlank (c : Char) : Bool :=
  let n := c.toNat
  (0x9 ≤ n && n ≤ 0xD) || n == 0x20 || n == 0x85 || n == 0xA0 || n == 0x1680 ||
    (0x2000 ≤ n && n ≤ 0x200A) || n == 0x2028 || n == 0x2029 || n == 0x202F || n == 0x205F ||
    n == 0x3000

/-- Drop the blanks at the end. -/
def dropBlankEnd (cs : List Char) : List Char :=
  (cs.reverse.dropWhile isBlank).reverse

def trimChars (cs : List Char) : List Char :=
  dropBlankEnd (cs.dropWhile isBlank)

/-- The text without the blanks at either end. -/
def trim (s : String) : String :=
  String.ofList (trimChars s.toList)

def isAllBlank (s : String) : Bool :=
  s.toList.all isBlank

/-! ## Texts in texts -/

def containsChars (needle : List Char) : List Char → Bool
  | [] => needle.isEmpty
  | c :: rest => needle.isPrefixOf (c :: rest) || containsChars needle rest

def contains (hay needle : String) : Bool := containsChars needle.toList hay.toList

end Text
end RelayDesk
