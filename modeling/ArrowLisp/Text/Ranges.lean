/-!
# Sets of characters as ranges

A class of characters is a list of closed ranges of code points. Membership is the plain
disjunction over the list, so a class is decided by its table and by nothing else.
-/

namespace ArrowLisp.Text

/-- Closed ranges of code points. -/
abbrev Ranges := List (Nat × Nat)

/-- Does some range hold the code point of `c`? -/
def Ranges.has (table : Ranges) (c : Char) : Bool :=
  table.any fun r => decide (r.1 ≤ c.toNat) && decide (c.toNat ≤ r.2)

end ArrowLisp.Text
