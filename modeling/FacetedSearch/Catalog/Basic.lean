/-
# FacetedSearch.Catalog.Basic -- the catalog of facets

A catalog has a forest of subjects and filter categories, each with a forest of choices.  A forest
keeps an index of its facets beside its trees, and every look up goes through the index: subjects by
key (`Catalog.subject?`), choices by category and key (`Catalog.choice?`).
-/
import FacetedSearch.Facet.Tree
import FacetedSearch.Keyed

namespace FacetedSearch

set_option autoImplicit false

/-- Trees with the index of their facets. -/
structure Forest where
  /-- The trees, siblings in ascending order. -/
  roots : List Facet.Tree := []
  /-- Every facet of the trees. -/
  index : List Facet := []

def Forest.find? (forest : Forest) (key : Facet.Key) : Option Facet :=
  Keyed.lookup Facet.key key forest.index

/-- A filter category. -/
structure Category where
  /-- The id, which is also the name of its link parameter. -/
  id : String
  /-- The labels by locale. -/
  labels : Facet.Labels
  /-- Categories stand in ascending order of this number. -/
  order : Int
  /-- The facets to choose from. -/
  choices : Forest

/-- Everything there is to select. -/
structure Catalog where
  subjects : Forest := {}
  /-- The filter categories, in ascending order. -/
  categories : List Category := []

namespace Catalog

def subject? (c : Catalog) (key : Facet.Key) : Option Facet := c.subjects.find? key

def category? (c : Catalog) (id : String) : Option Category :=
  Keyed.lookup Category.id id c.categories

/-- The choice of a category that has the key. -/
def choice? (c : Catalog) (id : String) (key : Facet.Key) : Option Facet :=
  (c.category? id).bind fun category => category.choices.find? key

/-- There is nothing to select, not even a category without choices. -/
def isEmpty (c : Catalog) : Bool := c.subjects.index.isEmpty && c.categories.isEmpty

end Catalog

end FacetedSearch
