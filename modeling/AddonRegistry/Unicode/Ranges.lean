/-!
# Sorted ranges of code points

A Unicode property is a sorted list of closed ranges of code points.  `memRanges` decides
membership and stops at the first range that starts beyond the code point.
-/

namespace AddonRegistry.Unicode

/-- Whether a code point lies in one of the ranges of a sorted table. -/
def memRanges (n : Nat) : List (Nat × Nat) → Bool
  | [] => false
  | (first, last) :: rest => if n < first then false else n ≤ last || memRanges n rest

end AddonRegistry.Unicode
