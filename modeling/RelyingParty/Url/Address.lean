/-!
# Addresses

Hosts that are numbers. An address of version 4 is read from up to four numbers, each decimal,
octal or hexadecimal, where the last one stands for all bytes that are left. An address of version 6
is eight pieces of 16 bits, of which a row of zeros may be left out once and the last two may be
written as an address of version 4.
-/

namespace RelyingParty.Url

/-- An address of version 4. -/
structure Ipv4 where
  /-- The address as one number. -/
  value : UInt32
deriving DecidableEq, Repr

/-- An address of version 6. -/
structure Ipv6 where
  /-- The pieces. -/
  pieces : List UInt16
deriving DecidableEq, Repr

/-- The value of a digit up to base 16. -/
def digitValue? (c : Char) : Option Nat :=
  let n := c.toNat
  if 48 ≤ n && n ≤ 57 then some (n - 48)
  else if 65 ≤ n && n ≤ 70 then some (n - 55)
  else if 97 ≤ n && n ≤ 102 then some (n - 87)
  else none

/-- The number that digits stand for in a base. -/
def numberIn? (base : Nat) (digits : List Char) : Option Nat :=
  digits.foldlM (fun n c => do
    let d ← digitValue? c
    if d < base then some (n * base + d) else none) 0

namespace Ipv4

/-- The number that a part of an address stands for: hexadecimal behind `0x`, octal behind `0`,
decimal otherwise. -/
def part? : List Char → Option Nat
  | [] => none
  | '0' :: 'x' :: digits => numberIn? 16 digits
  | '0' :: 'X' :: digits => numberIn? 16 digits
  | '0' :: digit :: digits => numberIn? 8 (digit :: digits)
  | digits => numberIn? 10 digits

/-- The parts between the dots, without an empty one at the end. -/
def parts (host : List Char) : List (List Char) :=
  let all := host.splitOn '.'
  if all.getLast? = some [] then all.dropLast else all

/-- Whether a host has to be an address: its last part is a number. -/
def isWanted (host : List Char) : Bool :=
  match (parts host).getLast? with
  | none => false
  | some last => (!last.isEmpty && last.all Char.isDigit) || (part? last).isSome

/-- The address that numbers make: each stands for one byte, and the last for the rest. -/
def ofNumbers? (numbers : List Nat) : Option Ipv4 :=
  match numbers.getLast? with
  | none => none
  | some last =>
    let bytes := numbers.dropLast
    let room := Nat.pow 256 (4 - bytes.length)
    if 4 < numbers.length || room ≤ last || bytes.any (255 < ·) then none
    else
      let high := bytes.foldl (fun n b => n * 256 + b) 0
      some ⟨UInt32.ofNat (high * room + last)⟩

/-- The address that a host is. -/
def ofHost? (host : List Char) : Option Ipv4 := do
  ofNumbers? (← (parts host).mapM part?)

/-- The address in decimal, byte by byte. -/
def text (address : Ipv4) : String :=
  let n := address.value.toNat
  toString (n >>> 24) ++ "." ++ toString ((n >>> 16) % 256) ++ "." ++
    toString ((n >>> 8) % 256) ++ "." ++ toString (n % 256)

end Ipv4

namespace Ipv6

/-- One of the numbers of an embedded address of version 4: up to 255 and without a zero in
front. -/
def byte? (digits : List Char) : Option Nat :=
  match digits with
  | [] => none
  | ['0'] => some 0
  | '0' :: _ => none
  | _ => if 3 < digits.length then none else (numberIn? 10 digits).filter (· ≤ 255)

/-- The two pieces of an embedded address of version 4. -/
def embedded? (part : List Char) : Option (List Nat) := do
  match ← (part.splitOn '.').mapM byte? with
  | [a, b, c, d] => some [a * 256 + b, c * 256 + d]
  | _ => none

/-- A piece of at most four hexadecimal digits. -/
def piece? (part : List Char) : Option Nat :=
  if part.isEmpty || 4 < part.length then none else numberIn? 16 part

/-- The pieces between colons; the last part may be an embedded address of version 4. -/
def pieces? : List (List Char) → Option (List Nat)
  | [] => some []
  | [last] => if last.contains '.' then embedded? last else (piece? last).map ([·])
  | part :: rest => do
    let first ← piece? part
    return first :: (← pieces? rest)

/-- The pieces of a text that may be empty. -/
def sidePieces? (side : List Char) : Option (List Nat) :=
  if side.isEmpty then some [] else pieces? (side.splitOn ':')

/-- The texts before and behind the first two colons in a row. -/
def divided? (before : List Char) : List Char → Option (List Char × List Char)
  | ':' :: ':' :: rest => some (before.reverse, rest)
  | c :: rest => divided? (c :: before) rest
  | [] => none

/-- An address of eight pieces. -/
def ofPieces? (pieces : List Nat) : Option Ipv6 :=
  if pieces.length = 8 then some ⟨pieces.map UInt16.ofNat⟩ else none

/-- The address that a text is. -/
def ofText? (text : List Char) : Option Ipv6 := do
  match divided? [] text with
  | none => ofPieces? (← sidePieces? text)
  | some (left, right) =>
    if left.contains '.' then none
    let front ← sidePieces? left
    let back ← sidePieces? right
    if 8 ≤ front.length + back.length then none
    ofPieces? (front ++ List.replicate (8 - front.length - back.length) 0 ++ back)

/-- The number of zeros at the front. -/
def zerosAhead (pieces : List UInt16) : Nat := (pieces.takeWhile (· == 0)).length

/-- The place and the length of the first of the longest rows of zeros; `index` is the place of the
first of `pieces`. -/
def longestZeros (index : Nat) : List UInt16 → Nat × Nat
  | [] => (index, 0)
  | piece :: rest =>
    let here := zerosAhead (piece :: rest)
    let later := longestZeros (index + 1) rest
    if later.2 ≤ here then (index, here) else later

/-- Pieces in hexadecimal, with colons between them. -/
def joined (pieces : List UInt16) : String :=
  ":".intercalate (pieces.map fun piece => String.ofList (Nat.toDigits 16 piece.toNat))

/-- The address in hexadecimal, without the first of the longest rows of at least two zeros. -/
def text (address : Ipv6) : String :=
  let (start, length) := longestZeros 0 address.pieces
  if length < 2 then joined address.pieces
  else joined (address.pieces.take start) ++ "::" ++
    joined (address.pieces.drop (start + length))

end Ipv6

end RelyingParty.Url
