/-
# FacetedSearch.Text.Ranges -- classes of characters

A class of characters is a list of ranges of code points, in ascending order.
-/
namespace FacetedSearch.Text

set_option autoImplicit false

/-- The first and the last code point of each range of a class. -/
abbrev Ranges := List (Nat × Nat)

/-- The character is in one of the ranges. -/
def Ranges.has (ranges : Ranges) (c : Char) : Bool :=
  ranges.any fun (first, last) => decide (first ≤ c.toNat ∧ c.toNat ≤ last)

end FacetedSearch.Text
