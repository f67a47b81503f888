/-!
# Sets of characters

A set of characters is written as a list of ranges of code points, first and last included.
-/

namespace HostStatus.Text

abbrev CharSet := List (Nat × Nat)

namespace CharSet

def contains (s : CharSet) (c : Char) : Bool :=
  s.any fun range => decide (range.1 ≤ c.toNat) && decide (c.toNat ≤ range.2)

end CharSet

end HostStatus.Text
