/-!
# Bisection

How many of the ascending numbers in a table are at most a given number, found by halving.
-/

namespace RelyingParty.Text

/-- The number of keys up to and including `n` among those at the indices from `low` up to `high`,
where all keys below `low` are at most `n` and all from `high` on are above it. -/
def countBetween (key : Nat → Nat) (n low high : Nat) : Nat :=
  if low < high then
    let middle := (low + high) / 2
    if key middle ≤ n then countBetween key n (middle + 1) high
    else countBetween key n low middle
  else low
termination_by high - low

/-- The last entry of a table whose key is at most `n`, where the keys ascend. -/
def lastAtMost {α : Type} (table : Array α) (key : α → Nat) (n : Nat) : Option α :=
  let count := countBetween (fun i => (table[i]?.map key).getD 0) n 0 table.size
  if count = 0 then none else table[count - 1]?

end RelyingParty.Text
