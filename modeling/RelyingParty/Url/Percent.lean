import RelyingParty.Text.Utf8

/-!
# Percent encoding

In a URL some characters are written as the bytes of their UTF-8 form, each behind a percent sign.
Which ones depends on the part of the URL; those outside ASCII are always among them.
-/

namespace RelyingParty.Url

open RelyingParty.Text

/-- The hexadecimal digit with a value. -/
def hexDigit (value : Nat) : Char :=
  if value < 10 then Char.ofNat (48 + value) else Char.ofNat (55 + value)

/-- A byte behind a percent sign. -/
def percentByte (b : UInt8) : List Char :=
  ['%', hexDigit (b.toNat / 16), hexDigit (b.toNat % 16)]

/-- A character, encoded if it is outside ASCII or in a set. -/
def percentEncoded (isEncoded : Char → Bool) (c : Char) : List Char :=
  if 128 ≤ c.toNat || isEncoded c then (Utf8.encode c.toString).flatMap percentByte else [c]

/-- A text with the characters of a set encoded. -/
def percentEncode (isEncoded : Char → Bool) (chars : List Char) : String :=
  String.ofList (chars.flatMap (percentEncoded isEncoded))

/-- Control characters, which are encoded everywhere. -/
def isControl (c : Char) : Bool :=
  c.toNat < 0x20 || c == '\x7F'

/-- What is encoded in a query. -/
def inQuery (c : Char) : Bool :=
  isControl c || [' ', '"', '#', '<', '>'].contains c

/-- What is encoded in the query of a URL with a special scheme. -/
def inSpecialQuery (c : Char) : Bool :=
  inQuery c || c == '\''

/-- What is encoded in a fragment. -/
def inFragment (c : Char) : Bool :=
  isControl c || [' ', '"', '<', '>', '\x60'].contains c

/-- What is encoded in a path. -/
def inPath (c : Char) : Bool :=
  inFragment c || ['#', '?', '\x7b', '\x7d'].contains c

/-- What is encoded in a user name and a password. -/
def inUserInfo (c : Char) : Bool :=
  inPath c || ['/', ':', ';', '=', '@', '[', '\\', ']', '^', '|'].contains c

/-- The value of a hexadecimal digit. -/
def hexValue? (b : UInt8) : Option Nat :=
  let n := b.toNat
  if 48 ≤ n && n ≤ 57 then some (n - 48)
  else if 65 ≤ n && n ≤ 70 then some (n - 55)
  else if 97 ≤ n && n ≤ 102 then some (n - 87)
  else none

/-- The bytes that bytes with percent signs stand for; a percent sign without two digits behind it
stands for itself. -/
def percentDecode : Bytes → Bytes
  | b :: high :: low :: rest =>
    match (if b = 0x25 then hexValue? high else none), hexValue? low with
    | some h, some l => UInt8.ofNat (h * 16 + l) :: percentDecode rest
    | _, _ => b :: percentDecode (high :: low :: rest)
  | rest => rest

end RelyingParty.Url
