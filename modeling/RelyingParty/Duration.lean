import RelyingParty.Json.Decode

/-!
# Durations

A duration is a number of nanoseconds, with at most `2^64 - 1` whole seconds. In a document it is
an object of whole seconds and further nanoseconds; nanoseconds beyond a second are carried over.
In a message it is written in the largest unit that has a whole part.
-/

namespace RelyingParty

/-- Nanoseconds in a second. -/
def nanosPerSecond : Nat := 1000000000

/-- A duration of at most `2^64 - 1` seconds and 999,999,999 nanoseconds. -/
structure Duration where
  /-- The whole duration in nanoseconds. -/
  total : Nat
  /-- The whole seconds fit into 64 bits. -/
  total_lt : total < UInt64.size * nanosPerSecond := by decide
deriving DecidableEq, Repr

namespace Duration

/-- The whole seconds. -/
def seconds (d : Duration) : Nat := d.total / nanosPerSecond

/-- The nanoseconds beyond the whole seconds. -/
def nanos (d : Duration) : Nat := d.total % nanosPerSecond

/-- The duration of some seconds and some more nanoseconds, unless it is too long. -/
def ofParts? (seconds nanos : Nat) : Option Duration :=
  let total := nanosPerSecond * seconds + nanos
  if h : total < UInt64.size * nanosPerSecond then some ⟨total, h⟩ else none

/-- A number of seconds that fits into 32 bits. -/
def ofSeconds (n : UInt32) : Duration :=
  ⟨n.toNat * nanosPerSecond, by
    have := n.toNat_lt
    unfold nanosPerSecond UInt64.size
    omega⟩

/-- Whether nothing passes. -/
def isZero (d : Duration) : Bool := d.total == 0

theorem seconds_lt (d : Duration) : d.seconds < UInt64.size := by
  unfold seconds
  apply Nat.div_lt_of_lt_mul
  rw [Nat.mul_comm]
  exact d.total_lt

theorem ofParts?_seconds_nanos (d : Duration) : ofParts? d.seconds d.nanos = some d := by
  have h : nanosPerSecond * d.seconds + d.nanos = d.total := Nat.div_add_mod _ _
  simp only [ofParts?, h]
  exact dif_pos d.total_lt

/-- A fraction of `places` digits without its trailing zeros, with the point, or nothing. -/
def fractionText (places fraction : Nat) : String :=
  let written := Nat.toDigits 10 fraction
  let padded := List.replicate (places - written.length) '0' ++ written
  let kept := (padded.reverse.dropWhile (· == '0')).reverse
  if kept.isEmpty then "" else "." ++ String.ofList kept

/-- A duration in a unit of `10 ^ places` nanoseconds. -/
def inUnit (d : Duration) (places : Nat) (unit : String) : String :=
  let length := Nat.pow 10 places
  toString (d.total / length) ++ fractionText places (d.total % length) ++ unit

/-- The duration in seconds, milliseconds, microseconds or nanoseconds: the largest of these of
which it has at least one. -/
def text (d : Duration) : String :=
  if Nat.pow 10 9 ≤ d.total then d.inUnit 9 "s"
  else if Nat.pow 10 6 ≤ d.total then d.inUnit 6 "ms"
  else if Nat.pow 10 3 ≤ d.total then d.inUnit 3 "µs"
  else d.inUnit 0 "ns"

open Json

/-- The object of the two parts. -/
def toJson (d : Duration) : Value :=
  .object [("secs", .number (.whole d.seconds)), ("nanos", .number (.whole d.nanos))]

/-- The names of the parts. -/
def fieldNames : List String := ["secs", "nanos"]

/-- Makes the duration of the parts that have been read. -/
def complete : Option Nat × Option Nat → Except Fault Duration
  | (none, _) => .error ⟨.missingField "secs", none⟩
  | (_, none) => .error ⟨.missingField "nanos", none⟩
  | (some seconds, some nanos) =>
    match ofParts? seconds nanos with
    | some d => .ok d
    | none => .error ⟨.durationTooLong, none⟩

/-- Reads the seconds. -/
def readSeconds : Reader Nat := Reader.unsigned (UInt64.size - 1) "u64"

/-- Reads the nanoseconds. -/
def readNanos : Reader Nat := Reader.unsigned (UInt32.size - 1) "u32"

/-- Reads one of the parts; an object of a duration has no other members. -/
def readMember (name : String) (seen : Option Nat × Option Nat) :
    Reader (Option Nat × Option Nat) := do
  if name = "secs" then return (← Reader.field name seen.1 readSeconds, seen.2)
  else if name = "nanos" then return (seen.1, ← Reader.field name seen.2 readNanos)
  else Reader.failUnplaced (.unknownField name fieldNames)

/-- What is wanted where a duration is read. -/
def wanted : String := "struct Duration"

/-- Reads the array of the two parts. -/
def readParts : Reader Duration := do
  match ← Reader.item? true readSeconds with
  | none => Reader.failUnplaced (.wrongLength 0 wanted)
  | some seconds =>
    match ← Reader.item? false readNanos with
    | none => Reader.failUnplaced (.wrongLength 1 wanted)
    | some nanos =>
      match complete (some seconds, some nanos) with
      | .ok d => pure d
      | .error fault => throw fault

/-- Reads a duration. -/
def read : Reader Duration :=
  Reader.record wanted (none, none) readMember complete readParts

end Duration

end RelyingParty
