/-!
# Classes of characters given by their boundaries

A class of code points is written as the ascending list of the points at which membership
changes: the first number opens a range, the second closes it before itself, and so on.
-/

namespace ServiceLinker.Text

/-- The code points at which membership in a class changes, in ascending order. -/
structure CharClass where
  boundaries : List Nat

namespace CharClass

/-- Membership flips at every boundary at or below `n`. -/
def insideFrom (n : Nat) : Bool → List Nat → Bool
  | inside, [] => inside
  | inside, b :: bs => if b ≤ n then insideFrom n (!inside) bs else inside

/-- Membership of a character. -/
def contains (cls : CharClass) (c : Char) : Bool := insideFrom c.toNat false cls.boundaries

end CharClass

end ServiceLinker.Text
