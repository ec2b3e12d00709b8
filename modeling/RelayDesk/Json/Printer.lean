import RelayDesk.Json.Basic

/-!
Writing JSON.  The compact form has no blanks; the indented form puts each item and each member
on a line of its own.  A string escapes the quote, the backslash and the control characters below
U+0020 and nothing else.
-/

namespace RelayDesk
namespace Json

/-- A control character by its code, in four hexadecimal digits. -/
def controlEscape (c : Char) : List Char :=
  ['\\', 'u', '0', '0', Nat.digitChar (c.toNat / 16), Nat.digitChar (c.toNat % 16)]

def escapeChar (c : Char) : List Char :=
  if c = '"' then ['\\', '"']
  else if c = '\\' then ['\\', '\\']
  else if c = '\x08' then ['\\', 'b']
  else if c = '\t' then ['\\', 't']
  else if c = '\n' then ['\\', 'n']
  else if c = '\x0c' then ['\\', 'f']
  else if c = '\r' then ['\\', 'r']
  else if c.toNat < 0x20 then controlEscape c
  else [c]

def stringChars (s : String) : List Char :=
  '"' :: (s.toList.flatMap escapeChar ++ ['"'])

/-- The parts with a comma between each two. -/
def commaSeparated (parts : List (List Char)) : List Char :=
  [','].intercalate parts

mutual

def chars : Json → List Char
  | null => ['n', 'u', 'l', 'l']
  | bool true => ['t', 'r', 'u', 'e']
  | bool false => ['f', 'a', 'l', 's', 'e']
  | num text => text.toList
  | str text => stringChars text
  | arr items => '[' :: (commaSeparated (itemParts items) ++ [']'])
  | obj members => '\x7b' :: (commaSeparated (memberParts members) ++ ['\x7d'])

def itemParts : List Json → List (List Char)
  | [] => []
  | item :: rest => chars item :: itemParts rest

def memberParts : List (String × Json) → List (List Char)
  | [] => []
  | (key, value) :: rest => (stringChars key ++ ':' :: chars value) :: memberParts rest

end

def text (v : Json) : String := String.ofList v.chars

/-- The text of a record whose members keep the order given. -/
def recordText (members : List (String × Json)) : String := text (obj members)

/-- A line break and the indentation of the given depth. -/
def lineBreak (depth : Nat) : List Char :=
  '\n' :: List.replicate (2 * depth) ' '

/-- Parts of a container on lines of their own, between its brackets. -/
def indentedBlock (opening closing : Char) (depth : Nat) (parts : List (List Char)) :
    List Char :=
  if parts.isEmpty then [opening, closing]
  else
    opening :: ([','].intercalate (parts.map (lineBreak (depth + 1) ++ ·)) ++
      lineBreak depth ++ [closing])

mutual

/-- The indented form, inside `depth` containers. -/
def indentedChars (depth : Nat) : Json → List Char
  | arr items => indentedBlock '[' ']' depth (indentedItems depth items)
  | obj members => indentedBlock '\x7b' '\x7d' depth (indentedMembers depth members)
  | scalar => chars scalar

def indentedItems (depth : Nat) : List Json → List (List Char)
  | [] => []
  | item :: rest => indentedChars (depth + 1) item :: indentedItems depth rest

def indentedMembers (depth : Nat) : List (String × Json) → List (List Char)
  | [] => []
  | (key, value) :: rest =>
    (stringChars key ++ ':' :: ' ' :: indentedChars (depth + 1) value) ::
      indentedMembers depth rest

end

def indentedText (v : Json) : String := String.ofList (v.indentedChars 0)

end Json
end RelayDesk
