import RelyingParty.Keyed
import RelyingParty.Numeric.Shortest

/-!
# JSON values

A value as a document writes it: an object is the list of its members in document order, and a name
may occur in it more than once. An object without repeated names is *merged*; merging keeps the
first place and the last value of each name.
-/

namespace RelyingParty.Json

open RelyingParty.Numeric

/-- A number: a whole number from `-2^63` up to `2^64 - 1` as it is, any other as a binary
floating-point number. -/
inductive Number where
  /-- A whole number that fits into 64 bits. -/
  | whole (n : Int)
  /-- A number with a fraction or an exponent, one outside the 64-bit range, or minus zero. -/
  | real (x : Binary64)
deriving DecidableEq, Repr

/-- A JSON value. -/
inductive Value where
  /-- The literal `null`. -/
  | null
  /-- One of the literals `true` and `false`. -/
  | bool (b : Bool)
  /-- A number. -/
  | number (n : Number)
  /-- A string. -/
  | string (s : String)
  /-- An array. -/
  | array (items : List Value)
  /-- An object, as the list of its members. -/
  | object (members : List (String × Value))
deriving Inhabited, Repr, BEq

/-- The members of an object, in order. -/
abbrev Members := Keyed Value

namespace Value

/-- The text of a string value. -/
def string? : Value → Option String
  | string s => some s
  | _ => none

/-- The number of a number value. -/
def number? : Value → Option Number
  | number n => some n
  | _ => none

end Value

end RelyingParty.Json
