/-!
# Sets of characters, given by ranges of code points

Character properties come as tables of closed ranges. A table is data of the Unicode standard; what
the library says about characters is said through `Ranges.has`.
-/

namespace WordLint.Text

/-- A set of characters: closed ranges of code points, in increasing order. -/
abbrev Ranges := List (Nat × Nat)

/-- A character is in the set when one of the ranges holds its code point. -/
def Ranges.has (ranges : Ranges) (c : Char) : Bool :=
  ranges.any fun r => r.1 ≤ c.toNat && c.toNat ≤ r.2

end WordLint.Text
