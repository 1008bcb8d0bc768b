import RelyingParty.Json.Value
import RelyingParty.Text.Quoted

/-!
# Faults of a JSON document

Why a document is refused, and where. A place is a line, counted from one, and a column: the number
of bytes read since the line began. The cause and the place make up the message.
-/

namespace RelyingParty.Json

open RelyingParty.Text

/-- A place in a document. -/
structure Place where
  /-- The line, counted from one. -/
  line : Nat
  /-- The number of bytes of the line that lie before the place. -/
  column : Nat
deriving DecidableEq, Repr

/-- What was found where something else was wanted. -/
inductive Found where
  /-- The literal `null`. -/
  | null
  /-- A truth value. -/
  | bool (b : Bool)
  /-- A whole number. -/
  | whole (n : Int)
  /-- A floating-point number. -/
  | real (x : Numeric.Binary64)
  /-- A string. -/
  | string (s : String)
  /-- An array. -/
  | sequence
  /-- An object. -/
  | map
deriving DecidableEq, Repr

/-- What a value is, to one who wanted something else. -/
def Value.found : Value → Found
  | .null => .null
  | .bool b => .bool b
  | .number (.whole n) => .whole n
  | .number (.real x) => .real x
  | .string s => .string s
  | .array _ => .sequence
  | .object _ => .map

/-- What was found, in words. -/
def Found.text : Found → String
  | null => "null"
  | bool b => "boolean `" ++ toString b ++ "`"
  | whole n => "integer `" ++ toString n ++ "`"
  | real x => "floating point `" ++ x.text ++ "`"
  | string s => "string " ++ quoted s
  | sequence => "sequence"
  | map => "map"

/-- Why a document is refused. -/
inductive Cause where
  /-- The document ends inside an array. -/
  | endInList
  /-- The document ends inside an object. -/
  | endInObject
  /-- The document ends inside a string. -/
  | endInString
  /-- The document ends where a value is wanted. -/
  | endInValue
  /-- No colon after a member's name. -/
  | noColon
  /-- Neither a comma nor the end of the array after an item. -/
  | noListEnd
  /-- Neither a comma nor the end of the object after a member. -/
  | noObjectEnd
  /-- A word that is none of the three literals. -/
  | noLiteral
  /-- No value starts here. -/
  | noValue
  /-- An escape that does not exist. -/
  | badEscape
  /-- Digits that are not a number. -/
  | badNumber
  /-- A number beyond the floating-point range. -/
  | numberTooLarge
  /-- Bytes that encode no character. -/
  | badCharacter
  /-- A control character inside a string. -/
  | controlCharacter
  /-- A member's name that is not a string. -/
  | nameNotString
  /-- Half a surrogate pair. -/
  | loneSurrogate
  /-- The first half of a surrogate pair without an escape after it. -/
  | cutSurrogate
  /-- A comma after the last item. -/
  | trailingComma
  /-- Something after the end of a value. -/
  | trailingCharacters
  /-- Too many containers inside each other. -/
  | tooDeep
  /-- A value of one type where another is wanted. -/
  | wrongType (found : Found) (wanted : String)
  /-- A value of the right type that is not possible. -/
  | wrongValue (found : Found) (wanted : String)
  /-- A sequence that is too short or a map that is too long. -/
  | wrongLength (length : Nat) (wanted : String)
  /-- A name that is none of the alternatives. -/
  | unknownVariant (name : String) (alternatives : List String)
  /-- A member that the object may not have. -/
  | unknownField (name : String) (alternatives : List String)
  /-- A member that the object must have. -/
  | missingField (name : String)
  /-- A member that the object has twice. -/
  | duplicateField (name : String)
  /-- Members that fit none of the forms of a type. -/
  | noVariant (type : String)
  /-- A duration of more than `2^64 - 1` seconds. -/
  | durationTooLong
deriving DecidableEq, Repr

/-- Alternatives in words. -/
def alternativesText : List String → String
  | [a] => "`" ++ a ++ "`"
  | [a, b] => "`" ++ a ++ "` or `" ++ b ++ "`"
  | many => "one of " ++ ", ".intercalate (many.map fun a => "`" ++ a ++ "`")

/-- The cause in words. -/
def Cause.text : Cause → String
  | endInList => "EOF while parsing a list"
  | endInObject => "EOF while parsing an object"
  | endInString => "EOF while parsing a string"
  | endInValue => "EOF while parsing a value"
  | noColon => "expected `:`"
  | noListEnd => "expected `,` or `]`"
  | noObjectEnd => "expected `,` or `\x7d`"
  | noLiteral => "expected ident"
  | noValue => "expected value"
  | badEscape => "invalid escape"
  | badNumber => "invalid number"
  | numberTooLarge => "number out of range"
  | badCharacter => "invalid unicode code point"
  | controlCharacter => "control character (\\u0000-\\u001F) found while parsing a string"
  | nameNotString => "key must be a string"
  | loneSurrogate => "lone leading surrogate in hex escape"
  | cutSurrogate => "unexpected end of hex escape"
  | trailingComma => "trailing comma"
  | trailingCharacters => "trailing characters"
  | tooDeep => "recursion limit exceeded"
  | wrongType found wanted => "invalid type: " ++ found.text ++ ", expected " ++ wanted
  | wrongValue found wanted => "invalid value: " ++ found.text ++ ", expected " ++ wanted
  | wrongLength n wanted => "invalid length " ++ toString n ++ ", expected " ++ wanted
  | unknownVariant name alternatives =>
    "unknown variant `" ++ name ++ "`, expected " ++ alternativesText alternatives
  | unknownField name alternatives =>
    "unknown field `" ++ name ++ "`, expected " ++ alternativesText alternatives
  | missingField name => "missing field `" ++ name ++ "`"
  | duplicateField name => "duplicate field `" ++ name ++ "`"
  | noVariant type => "data did not match any variant of untagged enum " ++ type
  | durationTooLong => "overflow deserializing Duration"

/-- Why and where a document is refused. A fault found in a value that was read before has no place
until the reader of the enclosing object gives it one. -/
structure Fault where
  /-- Why the document is refused. -/
  cause : Cause
  /-- The place, once it is known. -/
  place : Option Place
deriving DecidableEq, Repr

/-- The fault in words. -/
def Fault.message (fault : Fault) : String :=
  match fault.place with
  | some place =>
    fault.cause.text ++ " at line " ++ toString place.line ++ " column " ++ toString place.column
  | none => fault.cause.text

end RelyingParty.Json
