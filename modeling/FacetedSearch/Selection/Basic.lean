/-
# FacetedSearch.Selection.Basic -- what the user has selected

A selection has groups of subject entries, filter entries by category, and settings of the result
view.  Entries of a group are alternatives and groups combine, so an empty group selects nothing;
it is kept, so that groups keep their numbers, but counts for nothing (`populatedGroups`).
-/
import FacetedSearch.Selection.Filters

namespace FacetedSearch

set_option autoImplicit false

/-- How results are sorted. -/
inductive SortMethod
  | relevance
  | mostRecent
  | publicationDate
  | firstAuthor
  | journal
  deriving DecidableEq, Repr

namespace SortMethod

instance : Inhabited SortMethod := ⟨relevance⟩

/-- The name of a sort method in documents. -/
def name : SortMethod → String
  | relevance => "relevance"
  | mostRecent => "mostRecent"
  | publicationDate => "publicationDate"
  | firstAuthor => "firstAuthor"
  | journal => "journal"

instance : Coded SortMethod where
  all := [relevance, mostRecent, publicationDate, firstAuthor, journal]
  code
    | relevance => "relevance"
    | mostRecent => "date"
    | publicationDate => "pubdate"
    | firstAuthor => "fauth"
    | journal => "jour"
  mem_all := by intro s; cases s <;> decide
  code_injective := by intro s t; cases s <;> cases t <;> decide

end SortMethod

/-- What is selected, and how results are shown. -/
@[ext]
structure Selection where
  /-- The subject entries, group by group. -/
  groups : List (List Entry) := []
  /-- The filter entries by category. -/
  filters : Filters := {}
  /-- The advanced form is open. -/
  advanced : Bool := false
  /-- How results are sorted. -/
  sort : SortMethod := .relevance
  /-- The page of results, from one on. -/
  page : Nat := 1
  /-- How many results make a page. -/
  pageSize : Nat := 10
  /-- The selection is folded away. -/
  collapsed : Bool := false
  /-- Articles picked for a summary. -/
  pmids : List String := []
  /-- The place on the page to return to. -/
  anchor : Option String := none
  deriving DecidableEq

namespace Selection

instance : Inhabited Selection := ⟨{}⟩

def populatedGroups (s : Selection) : List (List Entry) := s.groups.filter fun g => !g.isEmpty

/-- Nothing is selected. -/
def isEmpty (s : Selection) : Bool := s.populatedGroups.isEmpty && s.filters.populated.isEmpty

/-- Adds an empty group after the others. -/
def addGroup (s : Selection) : Selection := { s with groups := s.groups ++ [[]] }

/-- Adds an entry to the group of a number among groups, after as many empty ones as it takes. -/
def pushTo (entry : Entry) : Nat → List (List Entry) → List (List Entry)
  | 0, [] => [[entry]]
  | 0, group :: rest => (group ++ [entry]) :: rest
  | n + 1, [] => [] :: pushTo entry n []
  | n + 1, group :: rest => group :: pushTo entry n rest

/-- Adds a subject entry to the group of a number. -/
def pushSubject (s : Selection) (group : Nat) (entry : Entry) : Selection :=
  { s with groups := pushTo entry group s.groups }

def addFilter (s : Selection) (category : String) (entry : Entry) : Selection :=
  { s with filters := s.filters.extend category [entry] }

/-- Takes the earliest facet with the key from a category, if there is one. -/
def removeFilter (s : Selection) (category : String) (key : Facet.Key) : Option Entry × Selection :=
  match s.filters.remove? category key with
  | some (taken, filters) => (some taken, { s with filters })
  | none => (none, s)

/-- Changes the scope of a subject entry, and tells whether there is such an entry. -/
def setScope (s : Selection) (group entry : Nat) (scope : Scope) : Bool × Selection :=
  match s.groups[group]? with
  | none => (false, s)
  | some entries =>
    if entry < entries.length then
      (true, { s with groups := s.groups.set group (entries.modify entry (Entry.withScope scope)) })
    else (false, s)

/-- Drops all that is selected and returns to the first page; the view stays as it is. -/
def clear (s : Selection) : Selection :=
  { s with groups := [], filters := {}, pmids := [], page := 1 }

/-- Both select and show the same, whatever the order of the filter categories. -/
def same (a b : Selection) : Bool :=
  a.filters.sameContents b.filters && { a with filters := {} } == { b with filters := {} }

end Selection

end FacetedSearch
