/-
# FacetedSearch.Proofs.Link.Addresses -- facets and the texts that name them in links

A link names a facet by the text of its key.  Building a catalog compares keys, level by level, and
does not ask whether they are well formed; texts stop at the first level that is not set.  So the
text of a key leads back to the facet if and only if the key is well formed, and so does the link of
a selection of the facet alone (`facets_addressable_iff`).  Facets with well-formed keys have texts of
their own.  Others may share a text, and then a link brings back another facet than it was written
for (`decode_encode_of_gap`).
-/
import FacetedSearch.Proofs.Catalog.Facets
import FacetedSearch.Proofs.Link.Decoded

namespace FacetedSearch

set_option autoImplicit false

/-- A facet is all that is selected. -/
def Selection.ofFacet (f : Facet) (scope : Scope) : Link.Position → Selection
  | .subject => { groups := [[.facet f scope]] }
  | .filter category =>
    { filters := { rows := [(category, [.facet f scope])], nodup := by simp } }

namespace Link

variable {catalog : Catalog} {position : Position} {f : Facet}

/-- The facet that the text of a key leads to at a position. -/
def facetOfText? (catalog : Catalog) (position : Position) (text : String) : Option Facet :=
  (Facet.Key.ofText? text).bind (findFacet? catalog position)

theorem isEmpty_of_holds {d : Definitions} (built : Catalog.build d = .ok catalog)
    (holds : catalog.Holds position f) : catalog.isEmpty = false := by
  cases holds with
  | subject member =>
      have indexed := (Forest.facets_perm_index_of_build (Catalog.subjects_of_build built)).mem_iff.1
        member
      simp [Catalog.isEmpty, List.ne_nil_of_mem indexed]
  | choice listed member => simp [Catalog.isEmpty, List.ne_nil_of_mem listed]

/-- The text of a key leads back to its facet if and only if the key is well formed. -/
theorem facetOfText?_text_iff {d : Definitions} (built : Catalog.build d = .ok catalog)
    (holds : catalog.Holds position f) :
    facetOfText? catalog position f.key.text = some f ↔ f.key.WellFormed := by
  have found := (Catalog.findFacet?_eq_some_iff built).2 ⟨holds, rfl⟩
  constructor
  · intro leads
    obtain ⟨key, named, looked_up⟩ := Option.bind_eq_some_iff.1 leads
    obtain rfl := key_of_findFacet? looked_up
    exact Facet.Key.wellFormed_of_ofText? named
  · intro wellFormed
    rw [facetOfText?, Facet.Key.ofText?_text wellFormed, Option.bind_some, found]

theorem writable_facet_iff {d : Definitions} (built : Catalog.build d = .ok catalog)
    (holds : catalog.Holds position f) (scope : Scope) :
    (Entry.facet f scope).Writable catalog position ↔ f.key.WellFormed := by
  refine ⟨fun writable => writable.nameable.1, fun wellFormed => ⟨?_, ⟨wellFormed, ?_⟩,
    not_infix_name_of_wellFormed wellFormed⟩⟩
  · cases holds with
    | subject member => trivial
    | choice listed member =>
        exact Option.isSome_of_eq_some ((Catalog.category?_eq_some_iff built).2 ⟨listed, rfl⟩)
  · exact (Catalog.findFacet?_eq_some_iff built).2 ⟨holds, rfl⟩

/-- What holds of every entry of a selection of one facet is what holds of the facet. -/
theorem throughout_ofFacet_iff {P : Position → Entry → Prop} (scope : Scope) :
    (Selection.ofFacet f scope position).Throughout P ↔ P position (.facet f scope) := by
  cases position with
  | subject =>
      exact ⟨fun h => h.subjects _ (List.mem_singleton_self _) _ (List.mem_singleton_self _),
        fun h => ⟨by simpa [Selection.ofFacet] using h, .empty⟩⟩
  | filter category =>
      exact ⟨fun h => h.filters.choices _ (List.mem_singleton_self _) _ (List.mem_singleton_self _),
        fun h => ⟨by simp [Selection.ofFacet], ⟨by simp [Selection.ofFacet],
          by simpa [Selection.ofFacet] using h⟩⟩⟩

@[simp] theorem pageSize_ofFacet (scope : Scope) :
    (Selection.ofFacet f scope position).pageSize = 10 := by
  cases position <;> rfl

@[simp] theorem pmids_ofFacet (scope : Scope) :
    (Selection.ofFacet f scope position).pmids = [] := by
  cases position <;> rfl

theorem kept_ofFacet (scope : Scope) :
    (Selection.ofFacet f scope position).kept = Selection.ofFacet f scope position := by
  cases position <;> rfl

/-- The link of a facet alone brings it back if and only if its key is well formed. -/
theorem decode_encode_ofFacet_iff {d : Definitions} (built : Catalog.build d = .ok catalog)
    (holds : catalog.Holds position f) (scope : Scope) :
    ({} : Format).decode catalog (({} : Format).encode (.ofFacet f scope position)) =
        ⟨.ofFacet f scope position, []⟩ ↔ f.key.WellFormed := by
  constructor
  · intro back
    -- whatever is read of a text can be written again, and so can this facet
    have settled : (({} : Format).decode catalog
        (({} : Format).encode (.ofFacet f scope position))).selection.Settled catalog :=
      settled_decode conventional_default _
    rw [back] at settled
    have writable := (throughout_ofFacet_iff scope).1 settled.sound.entries
    exact (writable_facet_iff built holds scope).1 writable
  · intro wellFormed
    have writable := (writable_facet_iff built holds scope).2 wellFormed
    have sound : (Selection.ofFacet f scope position).Sound catalog :=
      { entries := (throughout_ofFacet_iff scope).2 writable
        pageSize_pos := by simp
        pageSize_lt := by
          rw [pageSize_ofFacet]
          decide
        pmids_apart := by simp [Text.Separable] }
    rw [conventional_default.decode_encode built (isEmpty_of_holds built holds) sound, kept_ofFacet]

/-- **Which facets links can name.**  Of the facets of a built catalog, those with well-formed keys,
and no others, are led back to by the text of their key and brought back by the link of a selection
of them alone; and no two of them at one position share a text. -/
theorem facets_addressable_iff {d : Definitions} (built : Catalog.build d = .ok catalog) :
    (∀ (position : Position) (f : Facet), catalog.Holds position f →
      (facetOfText? catalog position f.key.text = some f ↔ f.key.WellFormed) ∧
      ∀ scope, (({} : Format).decode catalog (({} : Format).encode (.ofFacet f scope position)) =
        ⟨.ofFacet f scope position, []⟩ ↔ f.key.WellFormed)) ∧
    ∀ (position : Position) (f g : Facet), catalog.Holds position f → catalog.Holds position g →
      f.key.WellFormed → g.key.WellFormed → f.key.text = g.key.text → f = g := by
  refine ⟨fun position f holds => ⟨facetOfText?_text_iff built holds,
    decode_encode_ofFacet_iff built holds⟩, fun position f g holds holds' wellFormed wellFormed' same => ?_⟩
  have leads := (facetOfText?_text_iff built holds).2 wellFormed
  rw [same, (facetOfText?_text_iff built holds').2 wellFormed'] at leads
  exact (Option.some.inj leads).symm

namespace Example

theorem holds_subject : Catalog.Example.catalog.Holds .subject Catalog.Example.subject :=
  .subject (by decide)

theorem holds_choice : Catalog.Example.catalog.Holds (.filter "type") Catalog.Example.choice := by
  have listed : Catalog.Example.catalog.categories.head (by decide) ∈
      Catalog.Example.catalog.categories := List.head_mem _
  exact Catalog.Holds.choice listed (by decide)

/-- A facet of a group. -/
def group : Facet where
  key := ⟨"onc", none, none, none⟩
  texts := { normal := some ["a[ti]"] }

/-- A facet below it that has a second level but no first one. -/
def gap : Facet where
  key := ⟨"onc", none, some 1, none⟩
  texts := { normal := some ["b[ti]"] }

def gapped : Definitions := { subjects := [.node group [.node gap []]] }

def gappedCatalog : Catalog where
  subjects := { roots := [.node group [.node gap []]], index := [group, gap] }

end Example

theorem facets_addressable_of_level :
    Catalog.build Catalog.Example.definitions = .ok Catalog.Example.catalog ∧
      Catalog.Example.subject.key.WellFormed ∧
      facetOfText? Catalog.Example.catalog .subject "onc.1" = some Catalog.Example.subject ∧
      ({} : Format).decode Catalog.Example.catalog
          (({} : Format).encode (.ofFacet Catalog.Example.choice .broad (.filter "type"))) =
        ⟨.ofFacet Catalog.Example.choice .broad (.filter "type"), []⟩ :=
  have addressed := (facets_addressable_iff Catalog.Example.build_definitions).1
  ⟨Catalog.Example.build_definitions, by decide,
    (addressed .subject _ Example.holds_subject).1.2 (by decide),
    ((addressed (.filter "type") _ Example.holds_choice).2 .broad).2 (by decide)⟩

/-- A level is missing, and the link of the facet brings back the one above it. -/
theorem decode_encode_of_gap :
    Catalog.build Example.gapped = .ok Example.gappedCatalog ∧
      Example.gappedCatalog.Holds .subject Example.gap ∧
      Example.gappedCatalog.Holds .subject Example.group ∧
      Example.gap ≠ Example.group ∧ Example.gap.key.text = Example.group.key.text ∧
      facetOfText? Example.gappedCatalog .subject Example.gap.key.text = some Example.group ∧
      ({} : Format).decode Example.gappedCatalog
          (({} : Format).encode (.ofFacet Example.gap .normal .subject)) =
        ⟨.ofFacet Example.group .normal .subject, []⟩ := by
  refine ⟨by with_unfolding_all rfl, .subject (by decide), .subject (by decide), by decide,
    by decide, by decide, ?_⟩
  rw [decode_encode_eq rfl]
  decide +kernel

end Link

end FacetedSearch
