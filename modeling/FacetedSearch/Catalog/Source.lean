/-
# FacetedSearch.Catalog.Source -- catalogs written in JSON

A source holds three kinds of records: the catalog (`subjects`, `filters`), facets (`id`, `labels`,
`order`, `searchStrings`, `children`) and categories (`id`, `labels`, `order`, `choices`).  A record
is an object, whose other members are ignored and whose fields stand at most once, or an array of
field values in the order given here, from the right of which some may be left out.  Only `id` is
required.  In labels and search texts a later member replaces an earlier one of the same name.

Values are read in the order in which they stand, and the first that does not fit decides: a text
that is no facet key is reported as such, all else as a malformed source.  A break in the JSON text
counts where it stands (`Json.read`).  At most `maxNesting` containers may be open at once, not
counting those in ignored members.
-/
import FacetedSearch.Catalog.Build
import FacetedSearch.Json.Document

namespace FacetedSearch

set_option autoImplicit false

/-- Why a source gives no definitions. -/
inductive SourceError
  /-- The id of a facet is no facet key. -/
  | badKey (error : Facet.KeyError)
  /-- The source is no JSON text, or a value in it is not of its kind. -/
  | malformed
  deriving DecidableEq

namespace Source

/-- The text is a position in a source, such as ` at line 3 column 14`. -/
def isPosition (text : List Char) : Bool :=
  ((" at line ".toList.isPrefixOf? text).bind fun rest =>
    (" column ".toList.isPrefixOf? (rest.dropWhile Char.isDigit)).bind fun column =>
      (Text.readNumeral? UInt64.size (rest.takeWhile Char.isDigit)).bind fun _ =>
        Text.readNumeral? UInt64.size column).isSome

/-- The text without a position at its end. -/
def dropPosition : List Char → List Char
  | [] => []
  | c :: rest => if isPosition (c :: rest) then [] else c :: dropPosition rest

end Source

/-- The wording of each reason; a malformed source has none of its own.  Reports on a source give no
position, and what looks like one at the end of a key counts as one. -/
def SourceError.message? : SourceError → Option String
  | badKey error =>
    let text := "Invalid catalog format: " ++ error.message
    some (String.ofList (Source.dropPosition text.toList))
  | malformed => none

namespace Source

open Json (Document)

/-- How many containers may be open at once. -/
def maxNesting : Nat := 127

/-- A value read from a source. -/
abbrev Read (α : Type) := Except SourceError α

/-- A member of an object, or a field value with the name of its field. -/
abbrev Member := Option String × Document

/-! ## Values -/

/-- A text. -/
def readString : Document → Read String
  | .string (some text) => .ok text
  | _ => .error .malformed

def readKey (d : Document) : Read Facet.Key := do
  let text ← readString d
  (Facet.Key.parse text).mapError .badKey

/-- A place among siblings, which fits 32 bits. -/
def readOrder : Document → Read Int
  | .number (some n) => if Int32.minValue.toInt ≤ n ∧ n ≤ Int32.maxValue.toInt then .ok n else .error .malformed
  | _ => .error .malformed

/-- The items of an array, each read in turn. -/
def readItems {α : Type} (read : Document → Read α) : Document → Read (List α)
  | .array items => items.mapM read
  | _ => .error .malformed

/-- A value inside a container, of which `room` more may be opened. -/
def inside {α : Type} (room : Nat) (read : Nat → Document → Read α) (d : Document) : Read α :=
  match room with
  | 0 => .error .malformed
  | room + 1 => read room d

/-- One more label. -/
def addLabel (labels : Facet.Labels) : Member → Read Facet.Labels
  | (some locale, d) => (readString d).map fun label => labels.insert locale label
  | (none, _) => .error .malformed

/-- Labels by locale. -/
def readLabels : Document → Read Facet.Labels
  | .object members => members.foldlM addLabel {}
  | _ => .error .malformed

/-- The search texts of one more scope. -/
def addTexts (room : Nat) (texts : SearchTexts) : Member → Read SearchTexts
  | (some name, d) =>
    match Scope.ofName? name with
    | some scope =>
      (inside room (fun _ => readItems readString) d).map fun list => texts.set scope list
    | none => .error .malformed
  | (none, _) => .error .malformed

/-- Search texts by scope. -/
def readTexts (room : Nat) : Document → Read SearchTexts
  | .object members => members.foldlM (addTexts room) {}
  | _ => .error .malformed

/-! ## Records -/

/-- The fields of a record with their values, as they stand.  An item of an array beyond the last
field has no name. -/
def readMembers (fields : List String) : Document → Read (List Member)
  | .object members => .ok members
  | .array items => .ok (items.zipIdx.map fun item => (fields[item.2]?, item.1))
  | _ => .error .malformed

/-- The value of a field that has none so far. -/
def readOnce {α : Type} (known : Option α) (value : Read α) : Read (Option α) :=
  if known.isSome then .error .malformed else value.map some

/-- The fields of a facet read so far. -/
structure FacetDraft where
  key? : Option Facet.Key := none
  labels? : Option Facet.Labels := none
  order? : Option Int := none
  texts? : Option SearchTexts := none
  children? : Option (List Facet.Tree) := none

/-- The names of the fields of a facet. -/
def facetFields : List String := ["id", "labels", "order", "searchStrings", "children"]

/-- One more field of a facet. -/
def FacetDraft.add (room : Nat) (readChildren : Document → Read (List Facet.Tree))
    (draft : FacetDraft) : Member → Read FacetDraft
  | (none, _) => .error .malformed
  | (some name, d) =>
    match name with
    | "id" => do
      let key? ← readOnce draft.key? (readKey d)
      return { draft with key? }
    | "labels" => do
      let labels? ← readOnce draft.labels? (inside room (fun _ => readLabels) d)
      return { draft with labels? }
    | "order" => do
      let order? ← readOnce draft.order? (readOrder d)
      return { draft with order? }
    | "searchStrings" => do
      let texts? ← readOnce draft.texts? (inside room readTexts d)
      return { draft with texts? }
    | "children" => do
      let children? ← readOnce draft.children? (readChildren d)
      return { draft with children? }
    | _ => return draft

/-- The facet of a draft, if it has a key. -/
def FacetDraft.finish (draft : FacetDraft) : Read Facet.Tree :=
  match draft.key? with
  | none => .error .malformed
  | some key =>
    let facet : Facet :=
      ⟨key, draft.labels?.getD {}, draft.order?.getD 0, draft.texts?.getD {}⟩
    .ok (.node facet (draft.children?.getD []))

/-- The record of a facet, inside which `room` more containers may be opened. -/
def readFacetRecord (room : Nat) (readChildren : Document → Read (List Facet.Tree))
    (d : Document) : Read Facet.Tree := do
  let members ← readMembers facetFields d
  let draft ← members.foldlM (FacetDraft.add room readChildren) {}
  draft.finish

/-- A facet with those below it, where `room` more containers may be opened. -/
def readFacet : Nat → Document → Read Facet.Tree
  | 0 => fun _ => .error .malformed
  | 1 => readFacetRecord 0 fun _ => .error .malformed
  | room + 2 => readFacetRecord (room + 1) (readItems (readFacet room))

/-- The fields of a category read so far. -/
structure CategoryDraft where
  id? : Option String := none
  labels? : Option Facet.Labels := none
  order? : Option Int := none
  choices? : Option (List Facet.Tree) := none

/-- The names of the fields of a category. -/
def categoryFields : List String := ["id", "labels", "order", "choices"]

/-- One more field of a category. -/
def CategoryDraft.add (room : Nat) (draft : CategoryDraft) : Member → Read CategoryDraft
  | (none, _) => .error .malformed
  | (some name, d) =>
    match name with
    | "id" => do
      let id? ← readOnce draft.id? (readString d)
      return { draft with id? }
    | "labels" => do
      let labels? ← readOnce draft.labels? (inside room (fun _ => readLabels) d)
      return { draft with labels? }
    | "order" => do
      let order? ← readOnce draft.order? (readOrder d)
      return { draft with order? }
    | "choices" => do
      let choices? ← readOnce draft.choices? (inside room (fun room => readItems (readFacet room)) d)
      return { draft with choices? }
    | _ => return draft

/-- The category of a draft, if it has an id. -/
def CategoryDraft.finish (draft : CategoryDraft) : Read CategoryDefinition :=
  match draft.id? with
  | none => .error .malformed
  | some id =>
    .ok ⟨id, draft.labels?.getD {}, draft.order?.getD 0, draft.choices?.getD []⟩

/-- A category, inside which `room` more containers may be opened. -/
def readCategory (room : Nat) (d : Document) : Read CategoryDefinition := do
  let members ← readMembers categoryFields d
  let draft ← members.foldlM (CategoryDraft.add room) {}
  draft.finish

/-- The fields of a catalog read so far. -/
structure CatalogDraft where
  subjects? : Option (List Facet.Tree) := none
  filters? : Option (List CategoryDefinition) := none

/-- The names of the fields of a catalog. -/
def catalogFields : List String := ["subjects", "filters"]

/-- One more field of a catalog. -/
def CatalogDraft.add (room : Nat) (draft : CatalogDraft) : Member → Read CatalogDraft
  | (none, _) => .error .malformed
  | (some name, d) =>
    match name with
    | "subjects" => do
      let subjects? ←
        readOnce draft.subjects? (inside room (fun room => readItems (readFacet room)) d)
      return { draft with subjects? }
    | "filters" => do
      let filters? ←
        readOnce draft.filters? (inside room (fun room => readItems (inside room readCategory)) d)
      return { draft with filters? }
    | _ => return draft

/-- A catalog, inside which `room` more containers may be opened. -/
def readCatalog (room : Nat) (d : Document) : Read Definitions := do
  let members ← readMembers catalogFields d
  let draft ← members.foldlM (CatalogDraft.add room) {}
  return ⟨draft.subjects?.getD [], draft.filters?.getD []⟩

end Source

/-- The definitions that a source writes. -/
def Definitions.ofJson (source : String) : Except SourceError Definitions :=
  let reading := Json.read source.toList
  match reading.document? with
  | none => .error .malformed
  | some document => do
    let definitions ← Source.inside Source.maxNesting Source.readCatalog document
    if reading.complete then .ok definitions else .error .malformed

/-- Why a source gives no catalog. -/
inductive LoadError
  /-- The source writes no definitions. -/
  | source (error : SourceError)
  /-- The definitions break a rule. -/
  | build (error : BuildError)
  deriving DecidableEq

/-- The catalog that a source writes. -/
def Catalog.ofJson (source : String) : Except LoadError Catalog := do
  let definitions ← (Definitions.ofJson source).mapError .source
  (Catalog.build definitions).mapError .build

end FacetedSearch
