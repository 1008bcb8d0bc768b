import RelyingParty.Json.Value
import RelyingParty.Text.Quoted

/-!
# Printing values

The text of a value without blanks. In strings only the quote, the backslash and the control
characters below U+0020 are escaped; every other character stands for itself.
-/

namespace RelyingParty.Json

open RelyingParty.Text

/-- The escape of a control character that has no short one. -/
def controlEscape (n : Nat) : String :=
  "\\u00" ++ (if n < 0x10 then "0" else "") ++ hex n

/-- One character as it stands in a string. -/
def escapedChar (c : Char) : String :=
  let n := c.toNat
  if c == '"' then "\\\""
  else if c == '\\' then "\\\\"
  else if n == 0x08 then "\\b"
  else if n == 0x0C then "\\f"
  else if n == 0x0A then "\\n"
  else if n == 0x0D then "\\r"
  else if n == 0x09 then "\\t"
  else if n < 0x20 then controlEscape n
  else c.toString

/-- A string with its quotes. -/
def printString (text : String) : String :=
  "\"" ++ String.join (text.toList.map escapedChar) ++ "\""

/-- The text of a number. -/
def Number.print : Number → String
  | whole n => toString n
  | real x => x.text

mutual

/-- The text of a value. -/
def Value.print : Value → String
  | .null => "null"
  | .bool b => toString b
  | .number n => n.print
  | .string s => printString s
  | .array items => "[" ++ printItems items ++ "]"
  | .object members => "\x7b" ++ printMembers members ++ "\x7d"

/-- The items of an array, with commas between them. -/
def printItems : List Value → String
  | [] => ""
  | [item] => item.print
  | item :: rest => item.print ++ "," ++ printItems rest

/-- The members of an object, with commas between them. -/
def printMembers : List (String × Value) → String
  | [] => ""
  | [(name, item)] => printString name ++ ":" ++ item.print
  | (name, item) :: rest => printString name ++ ":" ++ item.print ++ "," ++ printMembers rest

end

end RelyingParty.Json
