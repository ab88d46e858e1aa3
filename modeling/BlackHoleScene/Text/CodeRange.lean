/-!
# Runs of code points

A character class is given by the runs of consecutive code points that belong
to it.
-/

namespace BlackHoleScene
namespace Text

/-- The code points from `first` to `last`, both included. -/
structure CodeRange where
  first : Nat
  last : Nat

namespace CodeRange

/-- The character belongs to the run. -/
def contains (range : CodeRange) (c : Char) : Bool :=
  range.first ≤ c.toNat && c.toNat ≤ range.last

/-- Runs from the pairs of their ends. -/
def ofPairs (ends : List (Nat × Nat)) : List CodeRange :=
  ends.map fun (first, last) => { first, last }

/-- The character belongs to one of the runs. -/
def anyContains (ranges : List CodeRange) (c : Char) : Bool :=
  ranges.any fun range => range.contains c

end CodeRange

end Text
end BlackHoleScene
