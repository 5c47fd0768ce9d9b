/-!
# Sets of code points

A set of code points given by its boundaries: the ascending code points at which membership changes,
beginning outside the set. A code point belongs to the set exactly when an odd number of boundaries is
not above it.
-/

namespace LexGen.Unicode

/-- The ascending code points at which membership in a set changes. -/
structure Boundaries where
  changes : List Nat

/-- The number of boundaries that are not above `n`. -/
def Boundaries.below (set : Boundaries) (n : Nat) : Nat :=
  (set.changes.takeWhile (· ≤ n)).length

def Boundaries.contains (set : Boundaries) (n : Nat) : Bool :=
  set.below n % 2 == 1

end LexGen.Unicode
