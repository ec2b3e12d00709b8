import RelayDesk.Json.Reader
import RelayDesk.Rpc.Method

/-!
Keys of cached answers.  A key joins the address of the node, the method and the params by bars.
Calls that mean the same have the same key: slashes at the end of the address, the spelling of the
method, the order of members and the case of account addresses make no difference.
-/

namespace RelayDesk
namespace Cache

/-- Drop slashes at the end, down to the last character. -/
def dropSlashes : List Char → List Char
  | c :: d :: rest => if c = '/' then dropSlashes (d :: rest) else c :: d :: rest
  | cs => cs

/-- The address of a node, trimmed and without slashes at its end. -/
def normalizeUrl (url : String) : String :=
  String.ofList (dropSlashes (Text.trimChars url.toList).reverse).reverse

/-- An account address: `0x` and forty hexadecimal digits. -/
def isAddress (s : String) : Bool :=
  match s.toList with
  | '0' :: 'x' :: digits => digits.length == 40 && digits.all Text.isHexDigit
  | _ => false

/-- A string with the letters of an account address in lowercase. -/
def lowerAddress (s : String) : String := if isAddress s then Text.asciiLower s else s

/-- Entries in increasing order of their keys. -/
def sortEntries (entries : List (String × List Char)) : List (String × List Char) :=
  entries.mergeSort fun a b => a.1 ≤ b.1

def entryChars (entry : String × List Char) : List Char :=
  Json.stringChars entry.1 ++ ':' :: entry.2

mutual

/-- The text of params in keys: no blanks, the members of an object in the order of their keys,
and every string that is an account address in lowercase.  Keys of members are left alone. -/
def canonicalChars : Json → List Char
  | .str s => Json.stringChars (lowerAddress s)
  | .arr items => '[' :: (Json.commaSeparated (canonicalItems items) ++ [']'])
  | .obj members =>
    '\x7b' :: (Json.commaSeparated ((sortEntries (canonicalMembers members)).map entryChars) ++
      ['\x7d'])
  | scalar => scalar.chars

def canonicalItems : List Json → List (List Char)
  | [] => []
  | item :: rest => canonicalChars item :: canonicalItems rest

def canonicalMembers : List (String × Json) → List (String × List Char)
  | [] => []
  | (key, value) :: rest => (key, canonicalChars value) :: canonicalMembers rest

end

def canonicalText (params : Json) : String := String.ofList (canonicalChars params)

/-- The three parts of a key, joined. -/
def joinKey (url method paramsText : String) : String :=
  normalizeUrl url ++ "|" ++ Rpc.canonicalMethod method ++ "|" ++ paramsText

/-- The key of a call whose params are a value. -/
def keyOfValue (url method : String) (params : Json) : String :=
  joinKey url method (canonicalText params)

/-- The key of a call whose params are given as text.  Text that is no JSON stands for itself,
trimmed. -/
def keyOfText (url method paramsText : String) : String :=
  match Json.read paramsText with
  | .ok params => keyOfValue url method params
  | .error _ => joinKey url method (Text.trim paramsText)

end Cache
end RelayDesk
