import RelyingParty.Numeric.Binary64

/-!
# Shortest decimal text

The text of a binary number: the fewest decimal digits that read back as the same number, and among
those the nearest. For each number of digits the two neighbours of the value on that decimal grid
are tried, so the first grid with a hit decides.
-/

namespace RelyingParty.Numeric

/-- Digits with the power of ten of the first digit: `3, 14` stands for `1.4e3`, read digit by
digit from `digits`. -/
structure Decimal where
  /-- The significant digits, without trailing zeros. -/
  digits : Nat
  /-- The power of ten at which the first digit stands. -/
  exponent : Int
deriving DecidableEq, Repr

/-- The number `count * 10 ^ unit`, as a ratio. -/
def gridRatio (count : Nat) (unit : Int) : Nat × Nat :=
  if unit < 0 then (count, Nat.pow 10 (-unit).toNat) else (count * Nat.pow 10 unit.toNat, 1)

/-- The power of ten of the first digit of a fraction below one, counting down from `-depth`. -/
def leadingBelow (num den : Nat) : Nat → Nat → Int
  | 0, depth => -(depth : Int)
  | fuel + 1, depth =>
    if den ≤ num * Nat.pow 10 depth then -(depth : Int) else leadingBelow num den fuel (depth + 1)

/-- The power of ten of the first digit of the positive number `num / den`. -/
def leadingExponent (num den : Nat) : Int :=
  if den ≤ num then ((Nat.toDigits 10 (num / den)).length : Int) - 1
  else leadingBelow num den 400 1

/-- Whether `count * 10 ^ unit` reads back as the absolute value of `x`. -/
def readsBack (x : Binary64) (count : Nat) (unit : Int) : Bool :=
  let (n, d) := gridRatio count unit
  Binary64.ofRatio? n d == some { x with negative := false }

/-- The neighbour of `num / den` on the grid of `10 ^ unit` that reads back as `x`; the nearer one
if both do, the even one on a tie. -/
def gridNeighbour? (x : Binary64) (num den : Nat) (unit : Int) : Option Nat :=
  let (n, d) :=
    if unit < 0 then (num * Nat.pow 10 (-unit).toNat, den) else (num, den * Nat.pow 10 unit.toNat)
  let below := n / d
  let nearest := roundDiv n d
  let other := if nearest == below then below + 1 else below
  if readsBack x nearest unit then some nearest
  else if readsBack x other unit then some other
  else none

/-- Removes trailing zeros; `places` bounds their number. -/
def dropZeros : Nat → Nat → Nat
  | 0, n => n
  | places + 1, n => if n != 0 && n % 10 == 0 then dropZeros places (n / 10) else n

/-- The first grid from `count` digits on, at most `fuel` of them, with a point that reads back. -/
def firstGrid (x : Binary64) (num den : Nat) (leading : Int) : Nat → Nat → Decimal
  | 0, _ => ⟨0, 0⟩
  | fuel + 1, count =>
    let unit := leading - count + 1
    match gridNeighbour? x num den unit with
    | some point =>
      let extra : Int := if Nat.pow 10 count ≤ point then 1 else 0
      ⟨dropZeros 20 point, leading + extra⟩
    | none => firstGrid x num den leading fuel (count + 1)

/-- The fewest digits that read back as the absolute value of `x`. -/
def shortest (x : Binary64) : Decimal :=
  if x.isZero then ⟨0, 0⟩
  else
    let (num, den) := x.ratio
    firstGrid x num den (leadingExponent num den) 18 1

/-- Zeros in a row. -/
def zeros (n : Nat) : String := String.ofList (List.replicate n '0')

/-- Digits with a point after the first `whole` of them. -/
def withPoint (digits : List Char) (whole : Nat) : String :=
  String.ofList (digits.take whole) ++ "." ++ String.ofList (digits.drop whole)

/-- The text of a binary number. Positional notation is used while the first digit stands at a
power of ten from `-5` to `15`, always with a digit after the point; other numbers have an exponent
with a sign. -/
def Binary64.text (x : Binary64) : String :=
  let sign := if x.negative then "-" else ""
  let decimal := shortest x
  let digits := Nat.toDigits 10 decimal.digits
  let count := digits.length
  let e := decimal.exponent
  let body :=
    if 0 ≤ e && e ≤ 15 then
      let whole := e.toNat + 1
      if count ≤ whole then String.ofList digits ++ zeros (whole - count) ++ ".0"
      else withPoint digits whole
    else if -5 ≤ e && e < 0 then
      "0." ++ zeros (e.natAbs - 1) ++ String.ofList digits
    else
      let mark := if e < 0 then "e-" else "e+"
      let head := if count ≤ 1 then String.ofList digits else withPoint digits 1
      head ++ mark ++ toString e.natAbs
  sign ++ body

end RelyingParty.Numeric
