import RelayDesk.Text.Case
import RelayDesk.Text.Quoted.Table

/-!
A text between double quotes, for messages: a quote and a backslash get a backslash before
them, four control characters have short escapes, and every other character that does not show
as itself is written by its code point in hexadecimal.
-/

namespace RelayDesk
namespace Text

def isAttachingMark (c : Char) : Bool := inRanges attachingMarkRanges c.toNat

/-- Does the character show as itself, apart from what stands before it? -/
def isPrintable (c : Char) : Bool := !inRanges unprintableRanges c.toNat

/-- The code point between braces, in lowercase hexadecimal. -/
def codePointEscape (c : Char) : List Char :=
  ['\\', 'u', '\x7b'] ++ Nat.toDigits 16 c.toNat ++ ['\x7d']

def quotedChar (c : Char) : List Char :=
  if c = '"' then ['\\', '"']
  else if c = '\\' then ['\\', '\\']
  else if c = '\n' then ['\\', 'n']
  else if c = '\r' then ['\\', 'r']
  else if c = '\t' then ['\\', 't']
  else if c = '\x00' then ['\\', '0']
  else if 0x20 ≤ c.toNat && c.toNat < 0x7F then [c]
  else if isAttachingMark c || !isPrintable c then codePointEscape c
  else [c]

/-- The text as messages quote it. -/
def quoted (s : String) : String :=
  String.ofList ('"' :: (s.toList.flatMap quotedChar ++ ['"']))

end Text
end RelayDesk
