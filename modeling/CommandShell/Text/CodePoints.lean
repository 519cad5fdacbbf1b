/-!
# Sets of code points

Character properties are kept as lists of closed intervals of code points, in ascending order.
-/

namespace CommandShell.Text

/-- Whether the code point of a character lies in one of the closed intervals. -/
def isWithin (ranges : List (Nat × Nat)) (c : Char) : Bool :=
  ranges.any fun r => r.1 ≤ c.toNat && c.toNat ≤ r.2

end CommandShell.Text
