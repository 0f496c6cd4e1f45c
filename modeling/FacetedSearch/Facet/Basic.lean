/-
# FacetedSearch.Facet.Basic -- facets

A facet is one choice of a catalog: its key, its labels, its place among its siblings, and the
search texts that stand for it, by scope.
-/
import FacetedSearch.Facet.Key
import FacetedSearch.Facet.Labels
import FacetedSearch.Scope.Basic

namespace FacetedSearch

set_option autoImplicit false

/-- The search texts of a facet: for each scope none, or the texts any of which may match. -/
structure SearchTexts where
  /-- Texts of the narrow scope. -/
  narrow : Option (List String) := none
  /-- Texts of the normal scope. -/
  normal : Option (List String) := none
  /-- Texts of the broad scope. -/
  broad : Option (List String) := none
  deriving DecidableEq, Inhabited

namespace SearchTexts

def get? (texts : SearchTexts) : Scope → Option (List String)
  | .narrow => texts.narrow
  | .normal => texts.normal
  | .broad => texts.broad

def set (texts : SearchTexts) (scope : Scope) (list : List String) : SearchTexts :=
  match scope with
  | .narrow => { texts with narrow := some list }
  | .normal => { texts with normal := some list }
  | .broad => { texts with broad := some list }

/-- The texts of a scope are those set last. -/
theorem get?_set (texts : SearchTexts) (scope other : Scope) (list : List String) :
    (texts.set scope list).get? other = if other = scope then some list else texts.get? other := by
  cases scope <;> cases other <;> rfl

/-- The texts of some rows, of which later ones replace earlier ones of the same scope. -/
def ofList (rows : List (Scope × List String)) : SearchTexts :=
  rows.foldl (fun texts row => texts.set row.1 row.2) {}

/-- The scopes that have texts, with these, in order. -/
def toList (texts : SearchTexts) : List (Scope × List String) :=
  (Coded.all : List Scope).filterMap fun scope => (texts.get? scope).map fun list => (scope, list)

end SearchTexts

/-- A choice of a catalog. -/
structure Facet where
  key : Facet.Key
  /-- The labels by locale. -/
  labels : Facet.Labels := {}
  /-- Siblings stand in ascending order of this number. -/
  order : Int := 0
  /-- The search texts by scope. -/
  texts : SearchTexts := {}
  deriving DecidableEq

namespace Facet

/-- The label shown for a locale, which is the text of the key if there is no label at all. -/
def label (f : Facet) (locale : String) : String := (f.labels.show? locale).getD f.key.text

/-- The first scope whose list of search texts is there but empty. -/
def emptyScope? (f : Facet) : Option Scope :=
  (f.texts.toList.find? fun row => row.2.isEmpty).map Prod.fst

end Facet

end FacetedSearch
