import RelyingParty.Domain.ReplacementTable
import RelyingParty.Text.Bisection

/-!
# Replacing characters

How a character of a domain name is replaced before anything else is done with the name.
-/

namespace RelyingParty.Domain

open RelyingParty.Text

/-- A row of code points and the first of the rows that replace them. -/
structure Replacement where
  /-- First code point of the row. -/
  first : Nat
  /-- Last code point of the row. -/
  last : Nat
  /-- Distance between neighbours in the row. -/
  step : Nat
  /-- The code points that replace the first one. -/
  target : List Nat

/-- The number that hexadecimal digits stand for. -/
def ofHex (digits : String) : Nat :=
  digits.toList.foldl (fun n c => n * 16 + (if c.isDigit then c.toNat - 48 else c.toNat - 55)) 0

/-- The row that the part of an entry before the sign describes. -/
def rowOfText (row : String) (target : List Nat) : Replacement :=
  match row.splitOn "-" with
  | [first, last] => ⟨ofHex first, ofHex last, 1, target⟩
  | _ =>
    match row.splitOn "=" with
    | [first, last] => ⟨ofHex first, ofHex last, 2, target⟩
    | _ => ⟨ofHex row, ofHex row, 1, target⟩

/-- The row that an entry of the table describes. -/
def ofEntry? (entry : String) : Option Replacement :=
  match entry.splitOn ">" with
  | [row, ""] => some (rowOfText row [])
  | [row, target] => some (rowOfText row ((target.splitOn "+").map ofHex))
  | _ => none

/-- The rows of the table. -/
def replacements : Array Replacement :=
  (replacementEntries.flatMap fun line => (line.splitOn " ").filterMap ofEntry?).toArray

/-- What a row replaces `n` by, if `n` belongs to it. -/
def Replacement.image? (row : Replacement) (n : Nat) : Option (List Nat) :=
  if row.first ≤ n && n ≤ row.last && (n - row.first) % row.step == 0 then
    some (row.target.map (· + (n - row.first)))
  else none

/-- What a character is replaced by, if it is. -/
def replaced? (c : Char) : Option (List Char) :=
  match lastAtMost replacements (·.first) c.toNat with
  | some row => (row.image? c.toNat).map (·.map Char.ofNat)
  | none => none

/-- A character, or what it is replaced by. -/
def replaced (c : Char) : List Char :=
  (replaced? c).getD [c]

end RelyingParty.Domain
