/-!
# Binary floating-point numbers

The finite numbers of the 64-bit binary format, kept exactly: a sign, a mantissa below `2^53` and a
power of two not below `-1074`. Zero has two signs. Each operation computes the exact ratio first
and rounds it once, to the nearest number of the format and to the even mantissa on a tie; a result
beyond the largest finite number is absent.
-/

namespace RelyingParty.Numeric

/-- A finite number of the 64-bit binary format: `mantissa * 2 ^ exponent`, with a sign. -/
structure Binary64 where
  /-- Whether the sign is a minus. -/
  negative : Bool
  /-- The significant bits as a whole number. -/
  mantissa : Nat
  /-- The power of two by which the mantissa is scaled. -/
  exponent : Int
deriving DecidableEq, Repr

/-- The whole number nearest to `num / den`; a tie goes to the even one. -/
def roundDiv (num den : Nat) : Nat :=
  let quotient := num / den
  let twice := 2 * (num % den)
  if twice < den || (twice == den && quotient % 2 == 0) then quotient else quotient + 1

namespace Binary64

/-- Positive zero. -/
def zero : Binary64 := ⟨false, 0, -1074⟩

/-- Whether the number is a zero of either sign. -/
def isZero (x : Binary64) : Bool := x.mantissa == 0

/-- The end of the mantissas: they have at most 53 bits. -/
def mantissaEnd : Nat := 9007199254740992

/-- The ratio `num / den` scaled down by `2 ^ exponent`, as a ratio. -/
def scaled (num den : Nat) (exponent : Int) : Nat × Nat :=
  if exponent < 0 then (num * Nat.pow 2 (-exponent).toNat, den)
  else (num, den * Nat.pow 2 exponent.toNat)

/-- The power of two at which `num / den` has a mantissa of 53 bits, but never below `-1074`. -/
def unitExponent (num den : Nat) : Int :=
  let guess : Int := (num.log2 : Int) - den.log2 - 53
  let (n, d) := scaled num den guess
  let exact := if n < d * mantissaEnd then guess else guess + 1
  max exact (-1074)

/-- The nonnegative number nearest to `num / den`, unless it lies beyond the largest finite one. -/
def ofRatio? (num den : Nat) : Option Binary64 :=
  if num == 0 then some zero
  else
    let exponent := unitExponent num den
    let (n, d) := scaled num den exponent
    let mantissa := roundDiv n d
    let (mantissa, exponent) :=
      if mantissa == mantissaEnd then (mantissaEnd / 2, exponent + 1) else (mantissa, exponent)
    if exponent ≤ 971 then some ⟨false, mantissa, exponent⟩ else none

/-- The exact absolute value, as a ratio. -/
def ratio (x : Binary64) : Nat × Nat :=
  if x.exponent < 0 then (x.mantissa, Nat.pow 2 (-x.exponent).toNat)
  else (x.mantissa * Nat.pow 2 x.exponent.toNat, 1)

/-- The absolute value times ten to the power `k`, rounded, for a power of ten that is itself
rounded first. -/
def timesPowerOfTen? (x : Binary64) (k : Nat) : Option Binary64 := do
  let power ← ofRatio? (Nat.pow 10 k) 1
  let (a, b) := x.ratio
  let (c, d) := power.ratio
  ofRatio? (a * c) (b * d)

/-- The absolute value divided by ten to the power `k`, rounded, for a power of ten that is itself
rounded first. -/
def overPowerOfTen? (x : Binary64) (k : Nat) : Option Binary64 := do
  let power ← ofRatio? (Nat.pow 10 k) 1
  let (a, b) := x.ratio
  let (c, d) := power.ratio
  ofRatio? (a * d) (b * c)

/-- Scales by `10 ^ exponent` in at most `steps` scalings, each by a power of ten up to `10 ^ 308`
and each rounded. -/
def scaleWithin? : Nat → Binary64 → Int → Option Binary64
  | 0, _, _ => none
  | steps + 1, x, exponent =>
    if exponent.natAbs ≤ 308 then
      if 0 ≤ exponent then x.timesPowerOfTen? exponent.natAbs
      else x.overPowerOfTen? exponent.natAbs
    else if x.isZero then some x
    else if 0 ≤ exponent then none
    else (x.overPowerOfTen? 308).bind fun y => scaleWithin? steps y (exponent + 308)

/-- Scales by `10 ^ exponent` the way a reader does that keeps a running binary number. -/
def scale? (x : Binary64) (exponent : Int) : Option Binary64 :=
  scaleWithin? (exponent.natAbs / 308 + 1) x exponent

/-- The number that a decimal notation stands for, with a significand and a power of ten. -/
def ofDecimal? (significand : Nat) (exponent : Int) : Option Binary64 := do
  (← ofRatio? significand 1).scale? exponent

/-- The whole part: the fraction is cut off, whatever the sign. -/
def truncate (x : Binary64) : Int :=
  let (n, d) := x.ratio
  if x.negative then -((n / d : Nat) : Int) else ((n / d : Nat) : Int)

end Binary64

end RelyingParty.Numeric
