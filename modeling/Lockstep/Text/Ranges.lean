/-
Classes of characters given as closed ranges of code points.
-/

namespace Lockstep.Text

/-- Some range of the list has the character's code point between its ends. -/
def inRanges (ranges : List (Nat × Nat)) (c : Char) : Bool :=
  ranges.any fun r => r.1 ≤ c.toNat && c.toNat ≤ r.2

end Lockstep.Text
