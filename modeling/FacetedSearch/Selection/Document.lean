/-
# FacetedSearch.Selection.Document -- selections as JSON values

Each field of a selection is a member of an object, in the order of the fields; optional texts that
are not there are `null`.  Filters and labels are objects in their own order, search texts an object
with the scopes that have some.
-/
import FacetedSearch.Json.Value
import FacetedSearch.Selection.Basic

namespace FacetedSearch

set_option autoImplicit false

open Json (Value)

/-- A text that may be missing. -/
def Json.Value.ofText? : Option String → Value
  | none => .null
  | some text => .string text

/-- Labels by locale. -/
def Facet.Labels.toJson (labels : Facet.Labels) : Value :=
  .object (labels.entries.map fun row => (row.1, .string row.2))

/-- Search texts by scope. -/
def SearchTexts.toJson (texts : SearchTexts) : Value :=
  .object (texts.toList.map fun row => (row.1.name, .array (row.2.map .string)))

def Facet.toJson (f : Facet) : Value :=
  .object
    [("key", .string f.key.text), ("labels", f.labels.toJson), ("order", .number f.order),
      ("search_strings", f.texts.toJson)]

/-- An entry, with the kind it is of. -/
def Entry.toJson : Entry → Value
  | facet f scope =>
    .object [("type", .string "facet"), ("facet", f.toJson), ("scope", .string scope.name)]
  | custom tag =>
    .object
      [("type", .string "custom"), ("name", .string tag.name), ("scope", .string tag.scope.name),
        ("translated", .boolean tag.translated), ("pre_translation", .ofText? tag.typedName)]

def Entry.listToJson (entries : List Entry) : Value := .array (entries.map Entry.toJson)

def Selection.toJson (s : Selection) : Value :=
  .object
    [("subjectGroups", .array (s.groups.map Entry.listToJson)),
      ("filters", .object (s.filters.rows.map fun row => (row.1, Entry.listToJson row.2))),
      ("advanced", .boolean s.advanced), ("sort", .string s.sort.name), ("page", .number s.page),
      ("pageSize", .number s.pageSize), ("collapsed", .boolean s.collapsed),
      ("aiPmids", .array (s.pmids.map .string)), ("anchor", .ofText? s.anchor)]

end FacetedSearch
