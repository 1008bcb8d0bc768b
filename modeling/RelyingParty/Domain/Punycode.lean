/-!
# Punycode

A label written in letters, digits and hyphens: the characters of ASCII as they are, a hyphen, and
one number for each other character, in the order of their code points. A number says how many steps
lie between two insertions, where one step is one place in the label or, after the last place, one
code point. It is written in digits of base 36 whose weights depend on how large the numbers before
it were.
-/

namespace RelyingParty.Domain.Punycode

/-- The base of the digits. -/
def base : Nat := 36

/-- The greatest number, which fits into 32 bits. -/
def limit : Nat := UInt32.size - 1

/-- The digit with a value: letters stand for 0 to 25, digits for 26 to 35. -/
def digit (value : Nat) : Char :=
  if value < 26 then Char.ofNat (97 + value) else Char.ofNat (22 + value)

/-- The value of a digit. -/
def value? (c : Char) : Option Nat :=
  let n := c.toNat
  if 97 ≤ n && n ≤ 122 then some (n - 97)
  else if 65 ≤ n && n ≤ 90 then some (n - 65)
  else if 48 ≤ n && n ≤ 57 then some (n - 22)
  else none

/-- The value from which on a digit at place `place` is followed by another one. -/
def threshold (bias place : Nat) : Nat :=
  let k := base * (place + 1)
  if k ≤ bias then 1 else if bias + 26 ≤ k then 26 else k - bias

theorem threshold_pos (bias place : Nat) : 0 < threshold bias place := by
  unfold threshold
  dsimp only
  split
  · omega
  · split <;> omega

/-- The bias for a number of the size of `delta`, which has been scaled, with `k` for the places
already passed. -/
def biasFrom (delta k : Nat) : Nat :=
  if 455 < delta then biasFrom (delta / 35) (k + base) else k + base * delta / (delta + 38)
termination_by delta
decreasing_by omega

/-- The bias after a number, when the label has `count` characters. -/
def adapted (delta count : Nat) (isFirst : Bool) : Nat :=
  let scaled := if isFirst then delta / 700 else delta / 2
  biasFrom (scaled + scaled / count) 0

/-- The digits of a number, from the digit at place `place` on. -/
def number (bias place n : Nat) : List Char :=
  let t := threshold bias place
  if n < t then [digit n]
  else digit (t + (n - t) % (base - t)) :: number bias (place + 1) ((n - t) / (base - t))
termination_by n
decreasing_by
  have := threshold_pos bias place
  have := Nat.div_le_self (n - threshold bias place) (base - threshold bias place)
  omega

/-- What has been read of an encoded label. -/
structure Reading where
  /-- The label so far. -/
  label : List Char
  /-- The code point of the next insertion. -/
  point : Nat := 128
  /-- The number read so far, on top of the place of the last insertion. -/
  sum : Nat := 0
  /-- The place of the last insertion. -/
  start : Nat := 0
  /-- The weight of the next digit. -/
  weight : Nat := 1
  /-- The place of the next digit in its number. -/
  place : Nat := 0
  /-- The bias. -/
  bias : Nat := 72

/-- Inserts the next character once its number is read. -/
def Reading.insert? (reading : Reading) (sum : Nat) : Option Reading :=
  let count := reading.label.length + 1
  let point := reading.point + sum / count
  let index := sum % count
  if h : point.isValidChar then
    some {
      label := reading.label.take index ++ Char.ofNatAux point h :: reading.label.drop index
      point := point
      sum := index + 1
      start := index + 1
      weight := 1
      place := 0
      bias := adapted (sum - reading.start) count (reading.start == 0) }
  else none

/-- Reads one more digit. -/
def Reading.next? (reading : Reading) (c : Char) : Option Reading := do
  let d ← value? c
  let sum := reading.sum + d * reading.weight
  if limit < sum then none
  let t := threshold reading.bias reading.place
  if d < t then reading.insert? sum
  else
    let weight := reading.weight * (base - t)
    if limit < weight then none
    return { reading with sum := sum, weight := weight, place := reading.place + 1 }

/-- The characters before the last hyphen and those behind it. -/
def divided (chars : List Char) : List Char × List Char :=
  let tail := (chars.reverse.takeWhile (· != '-')).reverse
  let head := chars.take (chars.length - tail.length - 1)
  if head.isEmpty then ([], chars) else (head, tail)

/-- The label that an encoded label stands for. -/
def decode? (chars : List Char) : Option (List Char) := do
  let (head, tail) := divided chars
  let reading ← tail.foldlM Reading.next? { label := head }
  if reading.place = 0 then some reading.label else none

/-- What has been written of a label. -/
structure Writing where
  /-- What has been written, last first. -/
  written : List Char := []
  /-- The number of the steps since the last insertion. -/
  delta : Nat := 0
  /-- The number of characters that have been inserted. -/
  count : Nat
  /-- Whether nothing has been inserted except the characters of ASCII. -/
  isFirst : Bool := true
  /-- The bias. -/
  bias : Nat := 72

/-- Passes one place of the label, or inserts the character there if its code point is `point`. -/
def Writing.pass (point : Nat) (writing : Writing) (c : Char) : Writing :=
  if c.toNat < point then { writing with delta := writing.delta + 1 }
  else if c.toNat = point then {
    written := (number writing.bias 0 writing.delta).reverse ++ writing.written
    delta := 0
    count := writing.count + 1
    isFirst := false
    bias := adapted writing.delta (writing.count + 1) writing.isFirst }
  else writing

/-- Inserts the characters of a label whose code points are listed, in ascending order and from
`next` on. -/
def writeFrom (label : List Char) : Nat → Writing → List Nat → Writing
  | _, writing, [] => writing
  | next, writing, point :: rest =>
    let moved := { writing with delta := writing.delta + (point - next) * (writing.count + 1) }
    let passed := label.foldl (Writing.pass point) moved
    writeFrom label (point + 1) { passed with delta := passed.delta + 1 } rest

/-- The encoded form of a label. -/
def encode (label : List Char) : List Char :=
  let plain := label.filter (·.toNat < 128)
  let others := (label.filter (128 ≤ ·.toNat)).map Char.toNat
  let points := (others.mergeSort (· ≤ ·)).eraseDups
  let writing := writeFrom label 128 { count := plain.length } points
  plain ++ (if plain.isEmpty then [] else ['-']) ++ writing.written.reverse

end RelyingParty.Domain.Punycode
