import RelayDesk.Json.Printer
import RelayDesk.Number.Shortest
import RelayDesk.Text.Quoted

/-!
Why a text is refused, and where.  A place is a line, counted from one, and the number of bytes
before it on that line.
-/

namespace RelayDesk
namespace Json

structure Place where
  line : Nat
  column : Nat
  deriving DecidableEq, Repr

/-- What stood where something else was expected. -/
inductive Found where
  | null
  | bool (value : Bool)
  | integer (value : Int)
  | float (value : Number.Binary64)
  /-- A number that is neither an integer of 64 bits nor asked for as a number. -/
  | number
  | string (text : String)
  | sequence
  | map
  deriving DecidableEq, Repr

def Found.description : Found → String
  | .null => "null"
  | .bool b => "boolean `" ++ (if b then "true" else "false") ++ "`"
  | .integer n => "integer `" ++ String.ofList (Text.decimalInt n) ++ "`"
  | .float x => "floating point `" ++ x.jsonText ++ "`"
  | .number => "number"
  | .string s => "string " ++ Text.quoted s
  | .sequence => "sequence"
  | .map => "map"

/-- Why a text is refused: the faults of JSON itself first, then those of a record that does not
have the shape asked for. -/
inductive Fault where
  | endOfList
  | endOfObject
  | endOfString
  | endOfValue
  | expectedIdent
  | expectedValue
  | expectedColon
  | expectedListComma
  | expectedObjectComma
  | trailingComma
  | trailingCharacters
  | keyNotString
  | invalidNumber
  | numberOutOfRange
  | invalidEscape
  | unexpectedEndOfEscape
  | loneSurrogate
  | controlCharacter
  | nestingLimit
  | missingField (name : String)
  | duplicateField (name : String)
  | invalidType (found : Found) (expected : String)
  | invalidValue (found : Found) (expected : String)
  | invalidLength (length : Nat) (expected : String)
  | unknownVariant (name : String) (variants : List String)
  /-- A value of the right form that its reader rejects for a reason of its own. -/
  | rejected (reason : String)
  deriving DecidableEq, Repr

def ticked (name : String) : String := "`" ++ name ++ "`"

def Fault.message : Fault → String
  | .endOfList => "EOF while parsing a list"
  | .endOfObject => "EOF while parsing an object"
  | .endOfString => "EOF while parsing a string"
  | .endOfValue => "EOF while parsing a value"
  | .expectedIdent => "expected ident"
  | .expectedValue => "expected value"
  | .expectedColon => "expected `:`"
  | .expectedListComma => "expected `,` or `]`"
  | .expectedObjectComma => "expected `,` or `\x7d`"
  | .trailingComma => "trailing comma"
  | .trailingCharacters => "trailing characters"
  | .keyNotString => "key must be a string"
  | .invalidNumber => "invalid number"
  | .numberOutOfRange => "number out of range"
  | .invalidEscape => "invalid escape"
  | .unexpectedEndOfEscape => "unexpected end of hex escape"
  | .loneSurrogate => "lone leading surrogate in hex escape"
  | .controlCharacter =>
    "control character (\\u0000-\\u001F) found while parsing a string"
  | .nestingLimit => "recursion limit exceeded"
  | .missingField name => "missing field " ++ ticked name
  | .duplicateField name => "duplicate field " ++ ticked name
  | .invalidType found expected =>
    "invalid type: " ++ found.description ++ ", expected " ++ expected
  | .invalidValue found expected =>
    "invalid value: " ++ found.description ++ ", expected " ++ expected
  | .invalidLength length expected =>
    "invalid length " ++ String.ofList (Text.decimal length) ++ ", expected " ++ expected
  | .unknownVariant name variants =>
    "unknown variant " ++ ticked name ++ ", expected one of " ++
      ", ".intercalate (variants.map ticked)
  | .rejected reason => reason

structure Refusal where
  fault : Fault
  place : Place
  deriving DecidableEq, Repr

def Refusal.message (r : Refusal) : String :=
  r.fault.message ++ " at line " ++ String.ofList (Text.decimal r.place.line) ++ " column " ++
    String.ofList (Text.decimal r.place.column)

end Json
end RelayDesk
