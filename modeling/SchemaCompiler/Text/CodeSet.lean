/-!
# Sets of characters

A character property is kept as the ascending list of code points at which membership changes, so
a table of ranges is a plain list of numbers. `CodeSet.contains` counts the changes up to a
character: an odd count means that the character lies inside a range.
-/

namespace SchemaCompiler

/-- A set of characters, given by the ascending code points at which membership changes. -/
structure CodeSet where
  /-- Starts of ranges at even places, the code points just past them at odd places. -/
  edges : List Nat

namespace CodeSet

/-- A character is in the set when an odd number of edges lies at or before it. -/
def contains (set : CodeSet) (character : Char) : Bool :=
  (set.edges.takeWhile (· ≤ character.toNat)).length % 2 == 1

end CodeSet

end SchemaCompiler
