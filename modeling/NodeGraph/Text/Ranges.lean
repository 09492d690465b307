/-!
# Sets of characters by their boundaries

A set of code points is stored as the increasing list of the points at which membership changes:
the first boundary opens the set, the next closes it, and so on.
-/

namespace NodeGraph

/-- Whether `n` lies behind an odd number of the boundaries. -/
def insideBounds : List Nat → Nat → Bool
  | [], _ => false
  | bound :: more, n => if n < bound then false else !insideBounds more n

end NodeGraph
