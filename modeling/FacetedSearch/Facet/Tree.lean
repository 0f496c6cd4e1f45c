/-
# FacetedSearch.Facet.Tree -- facets below facets

A tree is a facet with the trees below it.  The same trees define a catalog and make it up; in a
catalog siblings are sorted by their order (`Tree.arranged`).
-/
import FacetedSearch.Facet.Basic

namespace FacetedSearch.Facet

set_option autoImplicit false

/-- A facet with the trees below it. -/
inductive Tree
  | node (facet : Facet) (children : List Tree)

/-- Sorts by a number; members with the same number keep their order. -/
def byOrder {α : Type} (order : α → Int) (members : List α) : List α :=
  members.mergeSort fun a b => decide (order a ≤ order b)

/-- A facet with the key of the facet right above it. -/
structure Placement where
  /-- The key of the facet above, which a root does not have. -/
  parent? : Option Key
  facet : Facet
  deriving DecidableEq

namespace Tree

/-- The facet at the root. -/
def facet : Tree → Facet
  | node facet _ => facet

/-- The trees below the root. -/
def children : Tree → List Tree
  | node _ children => children

mutual

/-- The facets of a tree with their parents, each before the ones below it. -/
def placements (parent? : Option Key) : Tree → List Placement
  | node facet children => ⟨parent?, facet⟩ :: placementsAll (some facet.key) children

/-- The facets of sibling trees with their parents. -/
def placementsAll (parent? : Option Key) : List Tree → List Placement
  | [] => []
  | tree :: rest => tree.placements parent? ++ placementsAll parent? rest

end

mutual

/-- The tree with all siblings sorted by their order. -/
def arranged : Tree → Tree
  | node facet children => node facet (byOrder (fun t => t.facet.order) (arrangedAll children))

/-- Each tree with all siblings sorted by their order. -/
def arrangedAll : List Tree → List Tree
  | [] => []
  | tree :: rest => tree.arranged :: arrangedAll rest

end

end Tree

end FacetedSearch.Facet
