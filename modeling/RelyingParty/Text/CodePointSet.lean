import RelyingParty.Text.Bisection

/-!
# Sets of code points

A set of code points is stored as the ascending list of the code points at which membership
changes: the numbers below the first one are outside, those from the first up to the second are
inside, and so on.
-/

namespace RelyingParty.Text

/-- A set of code points, given by the ascending code points at which membership changes. -/
structure CodePointSet where
  /-- The code points at which membership changes, in ascending order. -/
  changes : Array Nat

namespace CodePointSet

/-- Whether a number belongs to the set: an odd number of changes lies below it or at it. -/
def contains (set : CodePointSet) (n : Nat) : Bool :=
  countBetween (fun i => set.changes.getD i 0) n 0 set.changes.size % 2 == 1

/-- Whether a character belongs to the set. -/
def has (set : CodePointSet) (c : Char) : Bool :=
  set.contains c.toNat

end CodePointSet

end RelyingParty.Text
