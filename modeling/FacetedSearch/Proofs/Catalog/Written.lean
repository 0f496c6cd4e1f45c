/-
# FacetedSearch.Proofs.Catalog.Written -- the documents that write definitions

Definitions may be written in many ways.  A record is an object or an array.  As an object its
fields stand in any order, among members of other names with any values; as an array they stand in
the order of the record.  A field whose content is the default may be left out, in an array only
with all fields after it (`IsRecord`).  Keys are written as any text that names them, labels and
search texts as rows of which later ones replace earlier ones, and an order as an integer that fits
32 bits.  Members of other names have any values but must have a name, and a name with half of a
surrogate pair is none.  Nothing here says how a source is read.
-/
import FacetedSearch.Catalog.Source
import Mathlib.Data.List.Forall2

namespace FacetedSearch

set_option autoImplicit false

namespace Json.Document

mutual

/-- How many containers are open at the deepest place of a document. -/
def depth : Document → Nat
  | .array items => itemsDepth items + 1
  | .object members => membersDepth members + 1
  | _ => 0

def itemsDepth : List Document → Nat
  | [] => 0
  | item :: rest => max item.depth (itemsDepth rest)

def membersDepth : List (Option String × Document) → Nat
  | [] => 0
  | (_, value) :: rest => max value.depth (membersDepth rest)

end

end Json.Document

namespace Source

open Json (Document)

/-! ## Records -/

/-- A field of a record that has one certain content. -/
structure Field where
  name : String
  /-- The document writes the content. -/
  Writes : Document → Prop
  /-- The content is that of a field which is left out. -/
  isDefault : Prop

/-- The values of the members of a name. -/
def valuesOf (name : String) (members : List Member) : List Document :=
  members.filterMap fun m => if m.1 = some name then some m.2 else none

/-- Among the members of an object the field stands once, or it is left out. -/
inductive Field.StandsIn (f : Field) (members : List Member) : Prop
  | once {d : Document} (only : valuesOf f.name members = [d]) (writes : f.Writes d)
  | leftOut (absent : valuesOf f.name members = []) (default : f.isDefault)

/-- The document is a record with the fields. -/
inductive IsRecord (fields : List Field) : Document → Prop
  | object {members : List Member} (named : ∀ m ∈ members, m.1.isSome = true)
      (stands : ∀ f ∈ fields, f.StandsIn members) : IsRecord fields (.object members)
  | array {items : List Document}
      (writes : List.Forall₂ Field.Writes (fields.take items.length) items)
      (defaults : ∀ f ∈ fields.drop items.length, f.isDefault) : IsRecord fields (.array items)

/-! ## Values -/

def WritesText (text : String) (d : Document) : Prop := d = .string (some text)

/-- A text that names the key. -/
def WritesKey (key : Facet.Key) (d : Document) : Prop :=
  ∃ text, Facet.Key.ofText? text = some key ∧ WritesText text d

/-- The number fits 32 bits. -/
def FitsOrder (n : Int) : Prop := Int32.minValue.toInt ≤ n ∧ n ≤ Int32.maxValue.toInt

/-- An integer that fits. -/
def WritesOrder (n : Int) (d : Document) : Prop := d = .number (some n) ∧ FitsOrder n

/-- Each locale with its label. -/
def WritesLabels (labels : Facet.Labels) (d : Document) : Prop :=
  ∃ rows : List (String × String), Facet.Labels.ofList rows = labels ∧
    d = .object (rows.map fun row => (some row.1, .string (some row.2)))

/-- Each scope with its texts. -/
def WritesTexts (texts : SearchTexts) (d : Document) : Prop :=
  ∃ rows : List (Scope × List String), SearchTexts.ofList rows = texts ∧
    d = .object (rows.map fun row =>
      (some row.1.name, .array (row.2.map fun text => .string (some text))))

/-! ## Fields -/

/-- An id that is no key, which is never left out. -/
def idField (id : String) : Field := ⟨"id", WritesText id, False⟩

/-- The key of a facet, which is never left out. -/
def keyField (key : Facet.Key) : Field := ⟨"id", WritesKey key, False⟩

def labelsField (labels : Facet.Labels) : Field := ⟨"labels", WritesLabels labels, labels = {}⟩

def orderField (n : Int) : Field := ⟨"order", WritesOrder n, n = 0⟩

def textsField (texts : SearchTexts) : Field := ⟨"searchStrings", WritesTexts texts, texts = {}⟩

/-- A list whose items are written by the items of an array. -/
def listField {α : Type} (name : String) (list : List α) (Writes : List Document → Prop) : Field :=
  ⟨name, fun d => ∃ items, d = .array items ∧ Writes items, list = []⟩

/-! ## Definitions -/

mutual

/-- The document writes a facet with those below it. -/
def WritesTree : Facet.Tree → Document → Prop
  | .node facet children =>
    IsRecord [keyField facet.key, labelsField facet.labels, orderField facet.order,
      textsField facet.texts, listField "children" children (WritesTrees children)]

/-- The documents write trees, each one of them in order. -/
def WritesTrees : List Facet.Tree → List Document → Prop
  | [], items => items = []
  | tree :: rest, items =>
    ∃ first others, items = first :: others ∧ WritesTree tree first ∧ WritesTrees rest others

end

/-- The document writes a category. -/
def WritesCategory (c : CategoryDefinition) : Document → Prop :=
  IsRecord [idField c.id, labelsField c.labels, orderField c.order,
    listField "choices" c.choices (WritesTrees c.choices)]

/-- The document writes definitions. -/
def WritesDefinitions (d : Definitions) : Document → Prop :=
  IsRecord [listField "subjects" d.subjects (WritesTrees d.subjects),
    listField "filters" d.categories (List.Forall₂ WritesCategory d.categories)]

end Source

end FacetedSearch
