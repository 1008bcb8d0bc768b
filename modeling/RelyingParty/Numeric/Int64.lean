/-!
# Whole numbers of 64 bits

The range of signed 64-bit numbers inside the integers, and addition that stops at its ends.
-/

namespace RelyingParty.Numeric

/-- The largest signed 64-bit number. -/
def int64Max : Int := 9223372036854775807

/-- The smallest signed 64-bit number. -/
def int64Min : Int := -9223372036854775808

/-- The number of the range that is nearest to `n`. -/
def clampInt64 (n : Int) : Int :=
  if n < int64Min then int64Min else if int64Max < n then int64Max else n

/-- The sum, held at the end of the range that it would pass. -/
def addSaturating (a b : Int) : Int := clampInt64 (a + b)

theorem clampInt64_eq (n : Int) : clampInt64 n = max int64Min (min int64Max n) := by
  unfold clampInt64 int64Min int64Max
  split
  · omega
  · split <;> omega

theorem int64Min_le_clampInt64 (n : Int) : int64Min ≤ clampInt64 n := by
  rw [clampInt64_eq]
  omega

theorem clampInt64_le_int64Max (n : Int) : clampInt64 n ≤ int64Max := by
  rw [clampInt64_eq]
  unfold int64Min int64Max
  omega

theorem clampInt64_of_le {n : Int} (h : n ≤ int64Min) : clampInt64 n = int64Min := by
  rw [clampInt64_eq]
  omega

theorem clampInt64_of_ge {n : Int} (h : int64Max ≤ n) : clampInt64 n = int64Max := by
  rw [clampInt64_eq]
  unfold int64Min int64Max at *
  omega

theorem clampInt64_mono {a b : Int} (h : a ≤ b) : clampInt64 a ≤ clampInt64 b := by
  rw [clampInt64_eq, clampInt64_eq]
  omega

end RelyingParty.Numeric
