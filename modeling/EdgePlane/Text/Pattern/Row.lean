/-!
# The height of a pattern

A pattern is a tree, and the height of the tree is limited. The height is found while the pattern is
read, without the tree.
-/

namespace EdgePlane.Text.Pattern

/-- Parts that stand beside each other: how many, and the greatest of their heights. -/
structure Row where
  count : Nat := 0
  greatest : Nat := 0
  deriving Repr, DecidableEq

namespace Row

/-- One part more. -/
def add (r : Row) (height : Nat) : Row := ⟨r.count + 1, max r.greatest height⟩

/-- The height of the row. One part alone makes no row. -/
def height (r : Row) : Nat := if r.count ≤ 1 then r.greatest else r.greatest + 1

end Row

/-- The greatest height that a pattern may have. -/
def maxHeight : Nat := 250

end EdgePlane.Text.Pattern
