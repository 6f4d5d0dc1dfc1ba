/-!
This module contains sets of characters given as ranges of code points.
-/

namespace Workday.Text

/--
An ascending list of ranges of code points, both ends included.
-/
abbrev Ranges := List (Nat × Nat)

def Ranges.has (ranges : Ranges) (c : Char) : Bool :=
  ranges.any fun (first, last) => first ≤ c.toNat && c.toNat ≤ last

end Workday.Text
