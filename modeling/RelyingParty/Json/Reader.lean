import RelyingParty.Json.Fault
import RelyingParty.Text.Utf8

/-!
# Reading a JSON document byte by byte

A reader passes over the bytes of a document and counts lines and columns. It may fail, and the
place that it has reached then stays known, because an enclosing container still looks for its own
end before the fault is given a place. A fault lies either at the place reached or, when the next
byte has only been looked at, just behind that byte.
-/

namespace RelyingParty.Json

open RelyingParty.Text
open RelyingParty.Numeric (Binary64)

/-- The place after one more byte: a line feed begins a new line. -/
def Place.after (place : Place) (b : UInt8) : Place :=
  if b = 0x0A then ⟨place.line + 1, 0⟩ else ⟨place.line, place.column + 1⟩

/-- How far a document has been read. -/
structure Cursor where
  /-- The bytes still to be read. -/
  rest : Bytes
  /-- The place of the first of them. -/
  place : Place
deriving DecidableEq, Repr

/-- The beginning of a document. -/
def Cursor.start (document : Bytes) : Cursor := ⟨document, ⟨1, 0⟩⟩

/-- The cursor after one more byte, if there is one. -/
def Cursor.advance (cursor : Cursor) : Cursor :=
  match cursor.rest with
  | [] => cursor
  | b :: rest => ⟨rest, cursor.place.after b⟩

/-- The cursor after `n` more bytes, or at the end. -/
def Cursor.advanceBy : Nat → Cursor → Cursor
  | 0, cursor => cursor
  | n + 1, cursor => advanceBy n cursor.advance

/-- A reader of a value: it moves the cursor and may find a fault. -/
abbrev Reader := EStateM Fault Cursor

namespace Reader

/-- A fault at the place reached. -/
def fail {α : Type} (cause : Cause) : Reader α := fun cursor =>
  .error ⟨cause, some cursor.place⟩ cursor

/-- A fault just behind the next byte, which stays unread. -/
def failAhead {α : Type} (cause : Cause) : Reader α := fun cursor =>
  .error ⟨cause, some cursor.advance.place⟩ cursor

/-- A fault whose place the enclosing container decides. -/
def failUnplaced {α : Type} (cause : Cause) : Reader α := fun cursor =>
  .error ⟨cause, none⟩ cursor

/-- Gives a fault that has no place yet the place reached. -/
def placed {α : Type} (read : Reader α) : Reader α := fun cursor =>
  match read cursor with
  | .ok value reached => .ok value reached
  | .error fault reached => .error ⟨fault.cause, some (fault.place.getD reached.place)⟩ reached

/-- Reads the content of a container and then its end. The end is looked for after a fault in the
content too, which is the fault that counts. -/
def enclosed {α : Type} (content : Reader α) (close : Reader Unit) : Reader α := fun cursor =>
  match content cursor with
  | .ok value reached =>
    match close reached with
    | .ok _ last => .ok value last
    | .error fault last => .error fault last
  | .error fault reached =>
    match close reached with
    | .ok _ last => .error fault last
    | .error _ last => .error fault last

/-- The next byte, which stays unread. -/
def peek : Reader (Option UInt8) := fun cursor =>
  .ok cursor.rest.head? cursor

/-- The next byte, which is passed over. -/
def next : Reader (Option UInt8) := fun cursor =>
  .ok cursor.rest.head? cursor.advance

/-- Passes over the next byte. -/
def skip : Reader Unit := fun cursor =>
  .ok () cursor.advance

/-- The number of bytes still to be read. -/
def remaining : Reader Nat := fun cursor =>
  .ok cursor.rest.length cursor

/-- Whether a byte is one of the four blanks between the parts of a document. -/
def isBlankByte (b : UInt8) : Bool :=
  b == 0x20 || b == 0x0A || b == 0x09 || b == 0x0D

/-- The cursor behind the blanks at the front of `bytes`. -/
def afterBlanks (place : Place) : Bytes → Cursor
  | [] => ⟨[], place⟩
  | b :: rest => if isBlankByte b then afterBlanks (place.after b) rest else ⟨b :: rest, place⟩

/-- Passes over blanks; the byte after them stays unread. -/
def peekPastBlanks : Reader (Option UInt8) := fun cursor =>
  let reached := afterBlanks cursor.place cursor.rest
  .ok reached.rest.head? reached

/-- The byte that encodes an ASCII character. -/
def byte (c : Char) : UInt8 := UInt8.ofNat c.toNat

/-- Reads the rest of a literal, letter by letter. -/
def literal : List Char → Reader Unit
  | [] => pure ()
  | c :: rest => do
    match ← next with
    | none => fail .endInValue
    | some b => if b == byte c then literal rest else fail .noLiteral

/-- The value of a hexadecimal digit. -/
def hexDigit? (b : UInt8) : Option Nat :=
  let n := b.toNat
  if 0x30 ≤ n && n ≤ 0x39 then some (n - 0x30)
  else if 0x41 ≤ n && n ≤ 0x46 then some (n - 0x41 + 10)
  else if 0x61 ≤ n && n ≤ 0x66 then some (n - 0x61 + 10)
  else none

/-- Reads four hexadecimal digits. All four bytes are passed over before they are looked at. -/
def hexQuad : Reader Nat := do
  let cursor ← get
  match cursor.rest with
  | a :: b :: c :: d :: _ =>
    set (cursor.advanceBy 4)
    match hexDigit? a, hexDigit? b, hexDigit? c, hexDigit? d with
    | some a, some b, some c, some d => pure (((a * 16 + b) * 16 + c) * 16 + d)
    | _, _, _, _ => fail .badEscape
  | rest =>
    set (cursor.advanceBy rest.length)
    fail .endInString

/-- Passes over a byte that has to be `b`, between the halves of a surrogate pair. -/
def pairByte (b : UInt8) : Reader Unit := do
  match ← peek with
  | none => fail .endInString
  | some found =>
    skip
    if found == b then pure () else fail .cutSurrogate

/-- Reads a `\u` escape after its `u`: one code unit, or a surrogate pair. -/
def unicodeEscape : Reader Bytes := do
  let first ← hexQuad
  if 0xDC00 ≤ first && first ≤ 0xDFFF then fail .loneSurrogate
  else if first < 0xD800 || 0xDFFF < first then
    pure (Utf8.encode (Char.ofNat first).toString)
  else
    pairByte (byte '\\')
    pairByte (byte 'u')
    let second ← hexQuad
    if second < 0xDC00 || 0xDFFF < second then fail .loneSurrogate
    else
      let code := (first - 0xD800) * 0x400 + (second - 0xDC00) + 0x10000
      pure (Utf8.encode (Char.ofNat code).toString)

/-- The character that a one-letter escape stands for. -/
def shortEscape? (b : UInt8) : Option UInt8 :=
  if b == byte '"' then some b
  else if b == byte '\\' then some b
  else if b == byte '/' then some b
  else if b == byte 'b' then some 0x08
  else if b == byte 'f' then some 0x0C
  else if b == byte 'n' then some 0x0A
  else if b == byte 'r' then some 0x0D
  else if b == byte 't' then some 0x09
  else none

/-- Reads an escape after its backslash. -/
def escape : Reader Bytes := do
  match ← next with
  | none => fail .endInString
  | some b =>
    if b == byte 'u' then unicodeEscape
    else
      match shortEscape? b with
      | some found => pure [found]
      | none => fail .badEscape

/-- Reads the bytes of a string up to its closing quote; `content` holds those read, last first,
and at most `bound` bytes or escapes follow. -/
def stringBytes : Nat → Bytes → Reader Bytes
  | 0, _ => fail .endInString
  | bound + 1, content => do
    match ← peek with
    | none => fail .endInString
    | some b =>
      skip
      if b == byte '"' then pure content.reverse
      else if b == byte '\\' then
        let found ← escape
        stringBytes bound (found.reverse ++ content)
      else if b < 0x20 then fail .controlCharacter
      else stringBytes bound (b :: content)

/-- Reads a string after its opening quote. -/
def stringContent : Reader String := do
  let bytes ← stringBytes ((← remaining) + 1) []
  match Utf8.decode? bytes with
  | some text => pure text
  | none => fail .badCharacter

/-- Passes over a string after its opening quote. Nothing is asked of the characters that it
stands for. -/
def skipString : Nat → Reader Unit
  | 0 => fail .endInString
  | bound + 1 => do
    match ← peek with
    | none => fail .endInString
    | some b =>
      if b == byte '"' then skip
      else if b == byte '\\' then
        skip
        match ← next with
        | none => fail .endInString
        | some e =>
          if e == byte 'u' then
            let _ ← hexQuad
            skipString bound
          else if (shortEscape? e).isSome then skipString bound
          else fail .badEscape
      else if b < 0x20 then fail .controlCharacter
      else
        skip
        skipString bound

/-- The value of a decimal digit. -/
def digit? (b : UInt8) : Option Nat :=
  if 0x30 ≤ b && b ≤ 0x39 then some (b.toNat - 0x30) else none

/-- The decimal digits at the front of `bytes` and the cursor behind them. -/
def digitRun (place : Place) : Bytes → List Nat × Cursor
  | [] => ([], ⟨[], place⟩)
  | b :: rest =>
    match digit? b with
    | some d =>
      let (digits, reached) := digitRun (place.after b) rest
      (d :: digits, reached)
    | none => ([], ⟨b :: rest, place⟩)

/-- Reads as many digits as there are. -/
def digits : Reader (List Nat) := fun cursor =>
  let (found, reached) := digitRun cursor.place cursor.rest
  .ok found reached

/-- The largest unsigned 64-bit number. -/
def wordMax : Nat := UInt64.size - 1

/-- Appends whole digits to a 64-bit significand. From the first digit that does not fit on, the
digits are only counted. -/
def addWhole (significand : Nat) : List Nat → Nat × Nat
  | [] => (significand, 0)
  | d :: rest =>
    if wordMax < significand * 10 + d then (significand, rest.length + 1)
    else addWhole (significand * 10 + d) rest

/-- Appends digits behind the point to a 64-bit significand until one does not fit; gives the number
of digits appended. -/
def addFraction (significand : Nat) : List Nat → Nat × Nat
  | [] => (significand, 0)
  | d :: rest =>
    if wordMax < significand * 10 + d then (significand, 0)
    else
      let (s, used) := addFraction (significand * 10 + d) rest
      (s, used + 1)

/-- The largest exponent that is told apart from larger ones. -/
def exponentMax : Nat := UInt32.size / 2 - 1

/-- Reads the digits of an exponent on top of `exponent`. A digit that takes it beyond `exponentMax`
ends the reading there, as a fault if the number would be too large for the format, and as a zero
otherwise. -/
def exponentDigits (huge : Bool) (exponent : Nat) : Nat → Reader (Option Nat)
  | 0 => pure (some exponent)
  | bound + 1 => do
    match (← peek).bind digit? with
    | none => pure (some exponent)
    | some d =>
      skip
      if exponentMax < exponent * 10 + d then
        if huge then fail .numberTooLarge
        else
          let _ ← digits
          pure none
      else exponentDigits huge (exponent * 10 + d) bound

/-- A floating-point number with a sign, or the fault that it is too large. -/
def real (negative : Bool) (magnitude : Option Binary64) : Reader Number :=
  match magnitude with
  | some x => pure (.real { x with negative := negative })
  | none => fail .numberTooLarge

/-- Reads an exponent after its `e` and makes the number. -/
def exponentPart (negative : Bool) (significand : Nat) (scale : Int) : Reader Number := do
  let sign ← peek
  let down := sign == some (byte '-')
  if down || sign == some (byte '+') then skip
  match ← next with
  | none => fail .endInValue
  | some b =>
    match digit? b with
    | none => fail .badNumber
    | some d =>
      match ← exponentDigits (significand != 0 && !down) d ((← remaining) + 1) with
      | none => real negative (some Binary64.zero)
      | some e =>
        let exponent := if down then scale - e else scale + e
        real negative (Binary64.ofDecimal? significand exponent)

/-- Whether the next byte begins an exponent. -/
def exponentAhead : Reader Bool := do
  let ahead ← peek
  pure (ahead == some (byte 'e') || ahead == some (byte 'E'))

/-- The number that whole digits without point and exponent stand for. Minus zero and numbers
beyond 64 bits are floating-point numbers. -/
def wholeNumber (negative : Bool) (significand dropped : Nat) : Reader Number :=
  if dropped = 0 then
    if !negative then pure (.whole significand)
    else if significand = 0 || UInt64.size / 2 < significand then
      real negative (Binary64.ofDecimal? significand 0)
    else pure (.whole (-significand))
  else real negative (Binary64.ofDecimal? significand dropped)

/-- Reads a number after its sign, if it has one. -/
def unsignedNumber (negative : Bool) : Reader Number := do
  match ← next with
  | none => fail .endInValue
  | some b =>
    match digit? b with
    | none => fail .badNumber
    | some d =>
      if d == 0 && ((← peek).bind digit?).isSome then failAhead .badNumber
      else
        let whole ← digits
        let (significand, dropped) := addWhole d whole
        if (← peek) == some (byte '.') then
          skip
          let fraction ← digits
          if fraction.isEmpty then
            if (← peek).isSome then failAhead .badNumber else failAhead .endInValue
          let (significand, used) := addFraction significand fraction
          let scale : Int := (dropped : Int) - used
          if ← exponentAhead then
            skip
            exponentPart negative significand scale
          else real negative (Binary64.ofDecimal? significand scale)
        else if ← exponentAhead then
          skip
          exponentPart negative significand dropped
        else wholeNumber negative significand dropped

/-- Reads a number. -/
def number : Reader Number := do
  if (← peek) == some (byte '-') then
    skip
    unsignedNumber true
  else unsignedNumber false

/-- Passes over an exponent after its `e`. -/
def skipExponent : Reader Unit := do
  let sign ← peek
  if sign == some (byte '-') || sign == some (byte '+') then skip
  match (← next).bind digit? with
  | none => fail .badNumber
  | some _ => let _ ← digits

/-- Passes over a number after its sign, if it has one. Its size does not matter. -/
def skipUnsigned : Reader Unit := do
  match (← next).bind digit? with
  | none => fail .badNumber
  | some d =>
    if d == 0 && ((← peek).bind digit?).isSome then failAhead .badNumber
    else
      let _ ← digits
      if (← peek) == some (byte '.') then
        skip
        if (← digits).isEmpty then failAhead .badNumber
      if ← exponentAhead then
        skip
        skipExponent

end Reader

end RelyingParty.Json
