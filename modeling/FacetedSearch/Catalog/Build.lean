/-
# FacetedSearch.Catalog.Build -- catalogs from definitions

Definitions are trees of facets, in any order, and categories with such trees.  A catalog is built
from them unless they break a rule, and then the first breach is reported: first those of the
subjects, facet by facet as they are written, then category by category a reserved id and the
breaches of its choices, and last an id that two categories share.  At one facet a misplaced key
comes before an empty list of search texts, and that before a key already used in the same forest.
-/
import FacetedSearch.Catalog.Basic

namespace FacetedSearch

set_option autoImplicit false

/-- What a filter category is built from. -/
structure CategoryDefinition where
  id : String
  /-- The labels by locale. -/
  labels : Facet.Labels := {}
  /-- The place among the categories. -/
  order : Int := 0
  /-- The facets to choose from, as written. -/
  choices : List Facet.Tree := []

/-- What a catalog is built from. -/
structure Definitions where
  /-- The subjects, as written. -/
  subjects : List Facet.Tree := []
  /-- The categories, as written. -/
  categories : List CategoryDefinition := []

/-- Why definitions give no catalog. -/
inductive BuildError
  /-- A facet is written below another whose key is not its parent. -/
  | misplacedFacet (child parent : Facet.Key)
  /-- A list of search texts is there but empty. -/
  | emptySearchTexts (key : Facet.Key) (scope : Scope)
  /-- Two facets of one forest have the key. -/
  | duplicateFacet (key : Facet.Key)
  /-- The id of a category is empty or the name of another link parameter. -/
  | reservedCategory (id : String)
  | duplicateCategory (id : String)
  deriving DecidableEq

/-- The wording of each breach. -/
def BuildError.message : BuildError → String
  | misplacedFacet child parent =>
    "Facet " ++ child.text ++ " is not a direct child of " ++ parent.text
  | emptySearchTexts key scope =>
    "Facet " ++ key.text ++ " has no search strings for scope " ++ scope.name
  | duplicateFacet key => "Duplicate facet: " ++ key.text
  | reservedCategory id => "Filter category uses a reserved parameter name: " ++ id
  | duplicateCategory id => "Duplicate filter category: " ++ id

/-! ## Facets -/

namespace Facet.Placement

/-- The facet is below one that its key is no child of. -/
def misplaced? (p : Placement) : Option BuildError :=
  p.parent?.bind fun parent =>
    if p.facet.key.parent? = some parent then none else some (.misplacedFacet p.facet.key parent)

/-- The facet has an empty list of search texts. -/
def emptyTexts? (p : Placement) : Option BuildError :=
  p.facet.emptyScope?.map fun scope => .emptySearchTexts p.facet.key scope

/-- The key of the facet was used before. -/
def duplicate? (used : List Key) (p : Placement) : Option BuildError :=
  if p.facet.key ∈ used then some (.duplicateFacet p.facet.key) else none

/-- The first rule that a facet breaks after facets with the used keys. -/
def breach? (used : List Key) (p : Placement) : Option BuildError :=
  p.misplaced? <|> p.emptyTexts? <|> p.duplicate? used

end Facet.Placement

/-- The first breach among placements that follow facets with the used keys. -/
def firstBreach? : List Facet.Key → List Facet.Placement → Option BuildError
  | _, [] => none
  | used, p :: rest => p.breach? used <|> firstBreach? (p.facet.key :: used) rest

def Forest.build (trees : List Facet.Tree) : Except BuildError Forest :=
  let placements := Facet.Tree.placementsAll none trees
  match firstBreach? [] placements with
  | some breach => .error breach
  | none =>
    .ok
      { roots := Facet.byOrder (fun t => t.facet.order) (Facet.Tree.arrangedAll trees)
        index := placements.map fun p => p.facet }

/-! ## Categories -/

/-- Names of link parameters that are no category. -/
def reservedNames : List String :=
  ["subject", "advanced", "sort", "collapsed", "pageSize", "pmidai", "page"]

def Category.build (d : CategoryDefinition) : Except BuildError Category :=
  if d.id = "" ∨ d.id ∈ reservedNames then .error (.reservedCategory d.id)
  else (Forest.build d.choices).map fun choices => ⟨d.id, d.labels, d.order, choices⟩

/-- The first text that stands in the list a second time. -/
def firstRepeated? (seen : List String) : List String → Option String
  | [] => none
  | id :: rest => if id ∈ seen then some id else firstRepeated? (id :: seen) rest

/-- The catalog of the definitions, or their first breach. -/
def Catalog.build (d : Definitions) : Except BuildError Catalog := do
  let subjects ← Forest.build d.subjects
  let categories ← d.categories.mapM Category.build
  let sorted := Facet.byOrder Category.order categories
  match firstRepeated? [] (sorted.map Category.id) with
  | some id => .error (.duplicateCategory id)
  | none => .ok ⟨subjects, sorted⟩

end FacetedSearch
