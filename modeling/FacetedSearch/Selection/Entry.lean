/-
# FacetedSearch.Selection.Entry -- selected entries

An entry is a facet of the catalog or a tag that the user typed, with the scope in which it is
searched.  A facet is searched by its texts of that scope; a tag by its own name, in the normal
scope only.
-/
import FacetedSearch.Facet.Basic

namespace FacetedSearch

set_option autoImplicit false

/-- A term that the user typed, possibly translated. -/
structure CustomTag where
  /-- The term. -/
  name : String
  scope : Scope := .normal
  /-- The term has been translated. -/
  translated : Bool := false
  /-- The term as it was typed, if it has been translated and that is known. -/
  typedName : Option String := none
  deriving DecidableEq

/-- A selected entry. -/
inductive Entry
  | facet (facet : Facet) (scope : Scope)
  | custom (tag : CustomTag)
  deriving DecidableEq

namespace Entry

/-- The scope in which the entry is searched. -/
def scope : Entry → Scope
  | facet _ scope => scope
  | custom tag => tag.scope

def withScope (scope : Scope) : Entry → Entry
  | facet f _ => facet f scope
  | custom tag => custom { tag with scope }

def key? : Entry → Option Facet.Key
  | facet f _ => some f.key
  | custom _ => none

/-- The search texts of the entry in its scope. -/
def texts? : Entry → Option (List String)
  | facet f scope => f.texts.get? scope
  | custom tag => if tag.scope = .normal then some [tag.name] else none

/-- The name of the entry in messages. -/
def name : Entry → String
  | facet f _ => f.key.text
  | custom tag => tag.name

end Entry

end FacetedSearch
