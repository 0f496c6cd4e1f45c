/-
# FacetedSearch.Proofs.Catalog.Sources -- which definitions have a source

A key without a text and an order beyond 32 bits cannot be written.  All other definitions can: with
every record as an object, its fields in order and none of them left out (`Definitions.source`).  So
the definitions that some source writes are exactly those whose keys are well formed and whose
orders fit (`exists_source_iff`), and loading covers all of them.
-/
import FacetedSearch.Proofs.Catalog.Loading

namespace FacetedSearch

set_option autoImplicit false

open Json (Spelling Document)

/-! ## Values -/

namespace Facet.Labels

theorem eq_of_entries_eq {a b : Labels} (h : a.entries = b.entries) : a = b := by
  cases a
  cases b
  cases h
  rfl

theorem insertRow_of_lt {locale label : String} {rows : List (String × String)}
    (after : ∀ row ∈ rows, row.1 < locale) :
    insertRow locale label rows = rows ++ [(locale, label)] := by
  induction rows with
  | nil => rfl
  | cons row rest ih =>
      have hrow := after row List.mem_cons_self
      have hne : locale ≠ row.1 := fun heq => String.lt_irrefl _ (heq ▸ hrow)
      rw [insertRow, if_neg (Std.not_lt.2 (Std.le_of_lt hrow)), if_neg hne,
        ih fun r hr => after r (List.mem_cons_of_mem _ hr), List.cons_append]

/-- Rows in ascending order are set one after the other. -/
theorem ofList_entries (labels : Labels) : ofList labels.entries = labels := by
  have hfold : ∀ (rows : List (String × String)) (known : Labels),
      (known.entries ++ rows).Pairwise (fun a b => a.1 < b.1) →
        (rows.foldl (fun labels row => labels.insert row.1 row.2) known).entries =
          known.entries ++ rows := by
    intro rows
    induction rows with
    | nil => intro known _; simp
    | cons row rest ih =>
        intro known ascending
        have hinsert : (known.insert row.1 row.2).entries = known.entries ++ [row] :=
          insertRow_of_lt fun r hr =>
            (List.pairwise_append.1 ascending).2.2 r hr row List.mem_cons_self
        rw [List.foldl_cons, ih _ (by simpa [hinsert] using ascending), hinsert, List.append_assoc,
          List.singleton_append]
  exact eq_of_entries_eq (hfold labels.entries {} labels.ascending)

end Facet.Labels

theorem SearchTexts.ofList_toList (texts : SearchTexts) :
    SearchTexts.ofList texts.toList = texts := by
  obtain ⟨narrow, normal, broad⟩ := texts
  cases narrow <;> cases normal <;> cases broad <;> rfl

namespace Source

open Json.Spelling

/-- Each locale with its label. -/
def labelsSource (labels : Facet.Labels) : Spelling :=
  ofMembers (labels.entries.map fun row => (row.1, ofText row.2))

/-- Each scope that has texts with these. -/
def textsSource (texts : SearchTexts) : Spelling :=
  ofMembers (texts.toList.map fun row => (row.1.name, ofItems (row.2.map ofText)))

mutual

/-- A facet with those below it. -/
def treeSource : Facet.Tree → Spelling
  | .node facet children => ofMembers
    [("id", ofText facet.key.text), ("labels", labelsSource facet.labels),
      ("order", ofInt facet.order), ("searchStrings", textsSource facet.texts),
      ("children", ofItems (treesSource children))]

def treesSource : List Facet.Tree → List Spelling
  | [] => []
  | tree :: rest => treeSource tree :: treesSource rest

end

def categorySource (c : CategoryDefinition) : Spelling := ofMembers
  [("id", ofText c.id), ("labels", labelsSource c.labels), ("order", ofInt c.order),
    ("choices", ofItems (treesSource c.choices))]

end Source

/-- The definitions with every field written out. -/
def Definitions.source (d : Definitions) : Spelling := Json.Spelling.ofMembers
  [("subjects", Json.Spelling.ofItems (Source.treesSource d.subjects)),
    ("filters", Json.Spelling.ofItems (d.categories.map Source.categorySource))]

/-! ## What can be written -/

/-- Every key of the placements has a text, and every order fits. -/
def PlacementsFit (placements : List Facet.Placement) : Prop :=
  ∀ p ∈ placements, p.facet.key.WellFormed ∧ Source.FitsOrder p.facet.order

/-- Every key of the definitions has a text, and every order fits. -/
structure Definitions.Writable (d : Definitions) : Prop where
  subjects : PlacementsFit (Facet.Tree.placementsAll none d.subjects)
  orders : ∀ c ∈ d.categories, Source.FitsOrder c.order
  choices : ∀ c ∈ d.categories, PlacementsFit (Facet.Tree.placementsAll none c.choices)

namespace Source

open Json.Spelling

theorem writesLabels_labelsSource (labels : Facet.Labels) :
    WritesLabels labels (labelsSource labels).document :=
  ⟨labels.entries, labels.ofList_entries, by simp [labelsSource, Function.comp_def]⟩

theorem writesTexts_textsSource (texts : SearchTexts) :
    WritesTexts texts (textsSource texts).document :=
  ⟨texts.toList, texts.ofList_toList, by simp [textsSource, Function.comp_def]⟩

mutual

theorem writesTree_treeSource (tree : Facet.Tree) (parent? : Option Facet.Key)
    (fits : PlacementsFit (tree.placements parent?)) :
    WritesTree tree (treeSource tree).document := by
  match tree with
  | .node facet children =>
      rw [treeSource, document_ofMembers]
      refine .object (by simp) ?_
      simp only [List.forall_mem_cons]
      obtain ⟨⟨key, order⟩, below⟩ := List.forall_mem_cons.1 fits
      refine ⟨.once rfl ⟨facet.key.text, Facet.Key.ofText?_text key, document_ofText _⟩,
        .once rfl (writesLabels_labelsSource _), .once rfl ⟨document_ofInt _, order⟩,
        .once rfl (writesTexts_textsSource _), .once rfl ⟨_, document_ofItems _, ?_⟩, List.forall_mem_nil _⟩
      exact writesTrees_treesSource children _ below

theorem writesTrees_treesSource (trees : List Facet.Tree) (parent? : Option Facet.Key)
    (fits : PlacementsFit (Facet.Tree.placementsAll parent? trees)) :
    WritesTrees trees ((treesSource trees).map document) := by
  match trees with
  | [] => rfl
  | tree :: rest =>
      obtain ⟨first, others⟩ := List.forall_mem_append.1 fits
      exact ⟨_, _, rfl, writesTree_treeSource tree parent? first,
        writesTrees_treesSource rest parent? others⟩

end

theorem writesCategory_categorySource {c : CategoryDefinition} (order : FitsOrder c.order)
    (choices : PlacementsFit (Facet.Tree.placementsAll none c.choices)) :
    WritesCategory c (categorySource c).document := by
  rw [categorySource, document_ofMembers]
  refine .object (by simp) ?_
  simp only [List.forall_mem_cons]
  exact ⟨.once rfl (document_ofText _), .once rfl (writesLabels_labelsSource _),
    .once rfl ⟨document_ofInt _, order⟩,
    .once rfl ⟨_, document_ofItems _, writesTrees_treesSource _ _ choices⟩, List.forall_mem_nil _⟩

theorem writesDefinitions_source {d : Definitions} (writable : d.Writable) :
    WritesDefinitions d d.source.document := by
  rw [Definitions.source, document_ofMembers]
  refine .object (by simp) ?_
  simp only [List.forall_mem_cons]
  refine ⟨.once rfl ⟨_, document_ofItems _, writesTrees_treesSource _ _ writable.subjects⟩,
    .once rfl ⟨_, document_ofItems _, ?_⟩, List.forall_mem_nil _⟩
  rw [List.map_map, List.forall₂_map_right_iff, List.forall₂_same]
  exact fun c hc => writesCategory_categorySource (writable.orders c hc) (writable.choices c hc)

/-! ## What is written -/

theorem exists_of_forall₂ {α β : Type} {R : α → β → Prop} {xs : List α} {ys : List β}
    (h : List.Forall₂ R xs ys) {x : α} (hx : x ∈ xs) : ∃ y, R x y := by
  induction h with
  | nil => exact absurd hx List.not_mem_nil
  | @cons first y _ _ related _ ih =>
      rcases List.mem_cons.1 hx with rfl | hx
      · exact ⟨y, related⟩
      · exact ih hx

/-- Of each field of a record something writes the content, or it is the default. -/
theorem IsRecord.writes_or_default {fields : List Field} {d : Document} (h : IsRecord fields d)
    {f : Field} (hf : f ∈ fields) : (∃ v, f.Writes v) ∨ f.isDefault := by
  cases h with
  | object _ stands =>
      cases stands f hf with
      | once _ writes => exact .inl ⟨_, writes⟩
      | leftOut _ default => exact .inr default
  | @array items writes defaults =>
      rw [← List.take_append_drop items.length fields] at hf
      rcases List.mem_append.1 hf with given | left
      · exact .inl (exists_of_forall₂ writes given)
      · exact .inr (defaults f left)

theorem fitsOrder_of_orderField {n : Int} (h : (∃ v, (orderField n).Writes v) ∨ n = 0) :
    FitsOrder n := by
  rcases h with ⟨v, -, fits⟩ | rfl
  · exact fits
  · exact ⟨by decide, by decide⟩

mutual

theorem placementsFit_of_writesTree (tree : Facet.Tree) (parent? : Option Facet.Key)
    {d : Document} (h : WritesTree tree d) : PlacementsFit (tree.placements parent?) := by
  match tree with
  | .node facet children =>
      rw [WritesTree] at h
      refine List.forall_mem_cons.2 ⟨⟨?_, ?_⟩, ?_⟩
      · obtain ⟨v, text, names, -⟩ :=
          (h.writes_or_default (f := keyField facet.key) (by simp)).resolve_right id
        exact Facet.Key.wellFormed_of_ofText? names
      · exact fitsOrder_of_orderField (h.writes_or_default (f := orderField facet.order) (by simp))
      · rcases h.writes_or_default
          (f := listField "children" children (WritesTrees children)) (by simp) with
          ⟨v, items, -, writes⟩ | none
        · exact placementsFit_of_writesTrees children _ writes
        · have none : children = [] := none
          rw [none]
          exact List.forall_mem_nil _

theorem placementsFit_of_writesTrees (trees : List Facet.Tree) (parent? : Option Facet.Key)
    {items : List Document} (h : WritesTrees trees items) :
    PlacementsFit (Facet.Tree.placementsAll parent? trees) := by
  match trees with
  | [] => exact List.forall_mem_nil _
  | tree :: rest =>
      rw [WritesTrees] at h
      obtain ⟨first, others, -, hfirst, hothers⟩ := h
      exact List.forall_mem_append.2 ⟨placementsFit_of_writesTree tree parent? hfirst,
        placementsFit_of_writesTrees rest parent? hothers⟩

end

theorem placementsFit_of_listField (name : String) {trees : List Facet.Tree}
    (h : (∃ v, (listField name trees (WritesTrees trees)).Writes v) ∨ trees = []) :
    PlacementsFit (Facet.Tree.placementsAll none trees) := by
  rcases h with ⟨v, items, -, writes⟩ | rfl
  · exact placementsFit_of_writesTrees trees none writes
  · exact List.forall_mem_nil _

theorem fits_of_writesCategory {c : CategoryDefinition} {v : Document} (h : WritesCategory c v) :
    FitsOrder c.order ∧ PlacementsFit (Facet.Tree.placementsAll none c.choices) :=
  ⟨fitsOrder_of_orderField (h.writes_or_default (by simp)),
    placementsFit_of_listField "choices" (h.writes_or_default (by simp))⟩

theorem writable_of_writesDefinitions {d : Definitions} {v : Document}
    (h : WritesDefinitions d v) : d.Writable := by
  have categories : ∀ c ∈ d.categories,
      FitsOrder c.order ∧ PlacementsFit (Facet.Tree.placementsAll none c.choices) := by
    intro c hc
    rcases h.writes_or_default
      (f := listField "filters" d.categories (List.Forall₂ WritesCategory d.categories)) (by simp)
      with ⟨_, _, -, writes⟩ | none
    · obtain ⟨_, written⟩ := exists_of_forall₂ writes hc
      exact fits_of_writesCategory written
    · have none : d.categories = [] := none
      rw [none] at hc
      exact absurd hc List.not_mem_nil
  exact ⟨placementsFit_of_listField "subjects" (h.writes_or_default (by simp)),
    fun c hc => (categories c hc).1, fun c hc => (categories c hc).2⟩

end Source

/-- **The definitions that some source writes** are those with well-formed keys and orders that fit
32 bits. -/
theorem Definitions.exists_source_iff (d : Definitions) :
    (∃ source : Spelling, Source.WritesDefinitions d source.document) ↔ d.Writable :=
  ⟨fun ⟨_, writes⟩ => Source.writable_of_writesDefinitions writes,
    fun writable => ⟨d.source, Source.writesDefinitions_source writable⟩⟩

/-- Definitions that are written out are read again. -/
theorem Definitions.ofJson_source {d : Definitions} (writable : d.Writable)
    (fits : d.source.document.depth ≤ Source.maxNesting) :
    Definitions.ofJson (String.ofList d.source.chars) = .ok d :=
  ofJson_chars (Source.writesDefinitions_source writable) fits

end FacetedSearch
