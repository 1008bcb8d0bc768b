import RelyingParty.Duration
import RelyingParty.Numeric.Int64

/-!
# Moments in time

A moment lies in a whole second since the epoch, which is all that the checks of a token look at, and
has a part of that second in nanoseconds. A leap second counts as part of the second before it, whose
part then grows beyond a full one. Moments are those of the years from -262143 to 262142.
-/

namespace RelyingParty

/-- A moment in time. -/
structure Instant where
  /-- The whole seconds since the epoch, rounded down. -/
  second : Int
  /-- The nanoseconds since that second began. -/
  nanos : Nat
  /-- The years begin with this second. -/
  first_le : -8334601228800 ≤ second := by decide
  /-- The years end with this second. -/
  le_last : second ≤ 8210266876799 := by decide
  /-- A leap second may follow the second. -/
  nanos_lt : nanos < 2 * nanosPerSecond := by decide
deriving DecidableEq, Repr

namespace Instant

/-- One moment is not after another when it lies in an earlier second, or not later in the same. -/
instance : LE Instant :=
  ⟨fun one other => one.second < other.second ∨
    one.second = other.second ∧ one.nanos ≤ other.nanos⟩

/-- Rounding down to seconds keeps the order. -/
theorem second_le {one other : Instant} (h : one ≤ other) : one.second ≤ other.second := by
  rcases h with h | ⟨h, _⟩ <;> omega

/-- No moment comes near the end of the signed 64-bit seconds. -/
theorem second_lt (now : Instant) : now.second < Numeric.int64Max := by
  have hlast := now.le_last
  unfold Numeric.int64Max
  omega

end Instant

end RelyingParty
