import RelyingParty.Text.Utf8

/-!
# Base64url

The encoding of bytes in the URL-safe alphabet without padding. Decoding is strict: no padding, no
character outside the alphabet, and no bits left over that are not zero, so every byte sequence has
exactly one encoding. A fault names the byte that is to blame and its offset. The last group of up
to four symbols is looked at as a whole, after all groups before it.
-/

namespace RelyingParty.Base64Url

open Text

/-- Why a text does not decode. -/
inductive Fault where
  /-- A byte outside the alphabet. -/
  | badSymbol (offset : Nat) (symbol : UInt8)
  /-- A single symbol is left for the last byte. -/
  | badLength (length : Nat)
  /-- The last symbol has bits that belong to no byte. -/
  | badLastSymbol (offset : Nat) (symbol : UInt8)
  /-- The text is padded. -/
  | badPadding
deriving DecidableEq, Repr

/-- The fault in words. -/
def Fault.message : Fault → String
  | badSymbol offset symbol =>
    "Invalid symbol " ++ toString symbol.toNat ++ ", offset " ++ toString offset ++ "."
  | badLength length => "Invalid input length: " ++ toString length
  | badLastSymbol offset symbol =>
    "Invalid last symbol " ++ toString symbol.toNat ++ ", offset " ++ toString offset ++ "."
  | badPadding => "Invalid padding"

/-- The six bits that a symbol stands for. -/
def sextet? (symbol : UInt8) : Option Nat :=
  let n := symbol.toNat
  if 0x41 ≤ n && n ≤ 0x5A then some (n - 0x41)
  else if 0x61 ≤ n && n ≤ 0x7A then some (n - 0x61 + 26)
  else if 0x30 ≤ n && n ≤ 0x39 then some (n - 0x30 + 52)
  else if n = 0x2D then some 62
  else if n = 0x5F then some 63
  else none

/-- The symbol for six bits. -/
def symbol (sextet : Nat) : UInt8 :=
  if sextet < 26 then UInt8.ofNat (sextet + 0x41)
  else if sextet < 52 then UInt8.ofNat (sextet - 26 + 0x61)
  else if sextet < 62 then UInt8.ofNat (sextet - 52 + 0x30)
  else if sextet = 62 then 0x2D
  else 0x5F

/-- The padding symbol. -/
def pad : UInt8 := 0x3D

/-- The symbols for bytes. -/
def encode : Bytes → Bytes
  | [] => []
  | [a] => [symbol (a.toNat / 4), symbol (a.toNat % 4 * 16)]
  | [a, b] =>
    [symbol (a.toNat / 4), symbol (a.toNat % 4 * 16 + b.toNat / 16), symbol (b.toNat % 16 * 4)]
  | a :: b :: c :: rest =>
    symbol (a.toNat / 4) :: symbol (a.toNat % 4 * 16 + b.toNat / 16) ::
      symbol (b.toNat % 16 * 4 + c.toNat / 64) :: symbol (c.toNat % 64) :: encode rest

/-- The six bits of the symbol at an offset. -/
def sextetAt (offset : Nat) (symbol : UInt8) : Except Fault Nat :=
  match sextet? symbol with
  | some n => .ok n
  | none => .error (.badSymbol offset symbol)

/-- The symbols of the last group before its padding, with the number of padding symbols; `index` is
the place in the group of the first symbol, and the group begins at `offset`. -/
def splitPadding (offset index : Nat) : Bytes → Except Fault (List Nat × Nat)
  | [] => .ok ([], 0)
  | s :: rest =>
    if s = pad then
      if index < 2 then .error (.badSymbol (offset + index) s)
      else if rest.all (· == pad) then .ok ([], rest.length + 1)
      else .error (.badSymbol (offset + index) s)
    else do
      let n ← sextetAt (offset + index) s
      let (found, padding) ← splitPadding offset (index + 1) rest
      return (n :: found, padding)

/-- The last group, of up to four symbols from `offset` on. -/
def decodeLast (offset : Nat) (group : Bytes) : Except Fault Bytes := do
  let (found, padding) ← splitPadding offset 0 group
  let last := group.getD (found.length - 1) 0
  let check (spare : Nat) (bytes : Bytes) : Except Fault Bytes :=
    if padding ≠ 0 then .error .badPadding
    else if spare ≠ 0 then .error (.badLastSymbol (offset + found.length - 1) last)
    else .ok bytes
  match found with
  | [] => if group.isEmpty then .ok [] else .error (.badLength offset)
  | [_] => .error (.badLength (offset + 1))
  | [a, b] => check (b % 16) [UInt8.ofNat (a * 4 + b / 16)]
  | [a, b, c] => check (c % 4) [UInt8.ofNat (a * 4 + b / 16), UInt8.ofNat (b % 16 * 16 + c / 4)]
  | a :: b :: c :: d :: _ =>
    check 0 [UInt8.ofNat (a * 4 + b / 16), UInt8.ofNat (b % 16 * 16 + c / 4),
      UInt8.ofNat (c % 4 * 64 + d)]

/-- The groups from `offset` on. -/
def decodeFrom (offset : Nat) : Bytes → Except Fault Bytes
  | a :: b :: c :: d :: e :: rest => do
    let p ← sextetAt offset a
    let q ← sextetAt (offset + 1) b
    let r ← sextetAt (offset + 2) c
    let s ← sextetAt (offset + 3) d
    let later ← decodeFrom (offset + 4) (e :: rest)
    return UInt8.ofNat (p * 4 + q / 16) :: UInt8.ofNat (q % 16 * 16 + r / 4) ::
      UInt8.ofNat (r % 4 * 64 + s) :: later
  | group => decodeLast offset group

/-- The bytes that symbols stand for. A single last symbol outside the alphabet is found before all
other faults. -/
def decode (symbols : Bytes) : Except Fault Bytes :=
  match symbols.getLast? with
  | none => .ok []
  | some last =>
    if symbols.length % 4 = 1 && last != pad && (sextet? last).isNone then
      .error (.badSymbol (symbols.length - 1) last)
    else decodeFrom 0 symbols

/-- The text whose symbols encode bytes. -/
def encodeText (bytes : Bytes) : String :=
  String.ofList ((encode bytes).map fun s => Char.ofNat s.toNat)

/-- The bytes that a text stands for. -/
def decodeText (text : String) : Except Fault Bytes :=
  decode (Utf8.encode text)

end RelyingParty.Base64Url
