/-!
# Sets and maps of code points

A property of characters is a sorted list of code point ranges, and a case mapping a sorted
list of ranges with a common distance. A search stops at the first range that lies above.
-/

set_option autoImplicit false

namespace RuleCheck.Text

abbrev Ranges := List (Nat × Nat)

def Ranges.has : Ranges → Nat → Bool
  | [], _ => false
  | (lo, hi) :: rest, c => if c < lo then false else if c ≤ hi then true else has rest c

abbrev Shifts := List (Nat × Nat × Nat × Int)

def Shifts.shift : Shifts → Nat → Nat
  | [], c => c
  | (lo, hi, step, distance) :: rest, c =>
    if c < lo then c
    else if c ≤ hi then if (c - lo) % step = 0 then (c + distance).toNat else c
    else shift rest c

end RuleCheck.Text
