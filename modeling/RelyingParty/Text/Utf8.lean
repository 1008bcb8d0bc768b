/-!
# UTF-8

Texts and the bytes that encode them. Decoding accepts exactly the well-formed encodings; for any
other byte sequence it tells where the first ill-formed part starts and how long it is, or that
the bytes end inside a character.
-/

namespace RelyingParty.Text

/-- A sequence of bytes. -/
abbrev Bytes := List UInt8

namespace Utf8

/-- Where a byte sequence stops being UTF-8: after `valid` good bytes come `length` bytes that no
character starts with, or, when `length` is absent, the beginning of a character that is cut
short by the end. -/
structure Fault where
  /-- Number of bytes before the ill-formed part. -/
  valid : Nat
  /-- Length of the ill-formed part, absent when the bytes end too early. -/
  length : Option Nat
deriving DecidableEq, Repr

/-- The bytes that encode a text. -/
def encode (text : String) : Bytes :=
  text.toUTF8.data.toList

/-- Range of the second byte of a character whose first byte is `lead`. -/
def secondRange (lead : UInt8) : Nat × Nat :=
  if lead = 0xE0 then (0xA0, 0xBF)
  else if lead = 0xED then (0x80, 0x9F)
  else if lead = 0xF0 then (0x90, 0xBF)
  else if lead = 0xF4 then (0x80, 0x8F)
  else (0x80, 0xBF)

/-- Whether a byte can only follow the first byte of a character. -/
def isTail (b : UInt8) : Bool :=
  0x80 ≤ b && b ≤ 0xBF

/-- The number of bytes a character takes that starts with `lead`, if one can. -/
def width? (lead : UInt8) : Option Nat :=
  if lead < 0x80 then some 1
  else if 0xC2 ≤ lead && lead ≤ 0xDF then some 2
  else if 0xE0 ≤ lead && lead ≤ 0xEF then some 3
  else if 0xF0 ≤ lead && lead ≤ 0xF4 then some 4
  else none

/-- How far the character at the front of `bytes` is well formed: its length, or the length of the
ill-formed part, which is absent when the bytes end inside the character. -/
def front (lead : UInt8) (rest : Bytes) : Except (Option Nat) Nat :=
  match width? lead with
  | none => .error (some 1)
  | some 1 => .ok 1
  | some n =>
    match rest with
    | [] => .error none
    | second :: later =>
      let (low, high) := secondRange lead
      if second.toNat < low || high < second.toNat then .error (some 1)
      else
        let tails := (later.take (n - 2)).takeWhile isTail
        if tails.length = n - 2 then .ok n
        else if tails.length = (later.take (n - 2)).length then .error none
        else .error (some (tails.length + 2))

/-- The place of the first ill-formed part, looking from byte `valid` on; `bytes` is what is left
and `pending` counts the bytes of the current character that are still to be passed over. -/
def locate (valid pending : Nat) : Bytes → Option Fault
  | [] => none
  | b :: rest =>
    match pending with
    | p + 1 => locate valid p rest
    | 0 =>
      match front b rest with
      | .ok n => locate (valid + n) (n - 1) rest
      | .error length => some ⟨valid, length⟩

/-- The text that the bytes encode, or the place where they stop being UTF-8. -/
def decode (bytes : Bytes) : Except Fault String :=
  match String.fromUTF8? ⟨bytes.toArray⟩ with
  | some text => .ok text
  | none => .error ((locate 0 0 bytes).getD ⟨bytes.length, none⟩)

/-- The text that the bytes encode, if they are UTF-8. -/
def decode? (bytes : Bytes) : Option String :=
  String.fromUTF8? ⟨bytes.toArray⟩

/-- The fault in words. -/
def Fault.message (fault : Fault) : String :=
  match fault.length with
  | some n =>
    "invalid utf-8 sequence of " ++ toString n ++ " bytes from index " ++ toString fault.valid
  | none => "incomplete utf-8 byte sequence from index " ++ toString fault.valid

theorem decode?_encode (text : String) : decode? (encode text) = some text := by
  simp only [decode?, encode]
  have h : (ByteArray.mk text.toUTF8.data.toList.toArray) = text.toByteArray := by
    simp [String.toUTF8]
  rw [h]
  simp only [String.fromUTF8?]
  split
  · rfl
  · rename_i h'
    exact absurd text.isValidUTF8 h'

end Utf8

end RelyingParty.Text
