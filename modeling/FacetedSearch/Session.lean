/-
# FacetedSearch.Session -- a selection under way

A session is a selection that steps change one after another: entries come and go, settings change,
and a link may replace all.  Each step answers something (`Step.run`); a step that finds nothing to
change says so and changes nothing.
-/
import FacetedSearch.Link.Read
import FacetedSearch.Link.Write

namespace FacetedSearch.Session

set_option autoImplicit false

/-- Settings to change; those that are missing stay. -/
structure Settings where
  advanced? : Option Bool := none
  collapsed? : Option Bool := none
  sort? : Option SortMethod := none
  page? : Option Nat := none
  pageSize? : Option Nat := none
  pmids? : Option (List String) := none
  /-- The new anchor, if it changes; it may be none. -/
  anchor? : Option (Option String) := none
  deriving DecidableEq

def Settings.apply (settings : Settings) (s : Selection) : Selection :=
  { s with
    advanced := settings.advanced?.getD s.advanced
    collapsed := settings.collapsed?.getD s.collapsed
    sort := settings.sort?.getD s.sort
    page := settings.page?.getD s.page
    pageSize := settings.pageSize?.getD s.pageSize
    pmids := settings.pmids?.getD s.pmids
    anchor := settings.anchor?.getD s.anchor }

/-- A step of a session. -/
inductive Step
  /-- Adds an empty subject group. -/
  | addGroup
  /-- Adds an entry to the subject group of a number. -/
  | pushSubject (group : Nat) (entry : Entry)
  | addFilter (category : String) (entry : Entry)
  /-- Takes a facet from a filter category. -/
  | removeFilter (category : String) (key : Facet.Key)
  /-- Changes the scope of a subject entry. -/
  | setScope (group entry : Nat) (scope : Scope)
  /-- Changes settings. -/
  | configure (settings : Settings)
  /-- Drops all that is selected. -/
  | clear
  /-- Goes to the selection of a link. -/
  | decode (text : String)
  /-- Goes to the selection of its own link. -/
  | reload

/-- What a step answers. -/
inductive Answer
  | nothing
  | number (value : Nat)
  | flag (value : Bool)
  /-- The entry that was taken, if any. -/
  | taken (entry : Option Entry)
  /-- What a link did not give. -/
  | read (diagnostics : List Diagnostic)
  /-- The link gave the same selection, and what it did not give. -/
  | reloaded (same : Bool) (diagnostics : List Diagnostic)
  deriving DecidableEq

/-- The answer to a step and the selection after it. -/
def Step.run (format : Link.Format) (catalog : Catalog) (s : Selection) :
    Step → Answer × Selection
  | addGroup => (.number s.groups.length, s.addGroup)
  | pushSubject group entry =>
    let next := s.pushSubject group entry
    (.number next.groups.length, next)
  | addFilter category entry =>
    let next := s.addFilter category entry
    (.number next.filters.rows.length, next)
  | removeFilter category key =>
    let (taken, next) := s.removeFilter category key
    (.taken taken, next)
  | setScope group entry scope =>
    let (found, next) := s.setScope group entry scope
    (.flag found, next)
  | configure settings => (.nothing, settings.apply s)
  | clear => (.nothing, s.clear)
  | decode text =>
    let decoded := format.decode catalog text
    (.read decoded.diagnostics, decoded.selection)
  | reload =>
    let decoded := format.decode catalog (format.encode s)
    (.reloaded (decoded.selection.same s) decoded.diagnostics, decoded.selection)

/-- The selection after some steps. -/
def runAll (format : Link.Format) (catalog : Catalog) (s : Selection) (steps : List Step) :
    Selection :=
  steps.foldl (fun s step => (step.run format catalog s).2) s

end FacetedSearch.Session
