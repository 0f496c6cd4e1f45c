/-
# FacetedSearch.Proofs.Catalog.Facets -- the facets of a catalog that was built

A forest is arranged sibling by sibling, but its index is filled as the definitions are written.
Arranging moves facets and leaves their parents (`placementsAll_arrangedAll`), so the trees hold
what the index holds; and no two facets of a forest have one key, since the definitions have no
breach (`firstBreach?_eq_none_iff`).  So a look up finds a facet if and only if it stands in the
trees with that key (`Forest.find?_eq_some_iff`), of the subjects and of the choices of each
category (`Catalog.findFacet?_eq_some_iff`).
-/
import FacetedSearch.Link.Read
import FacetedSearch.Proofs.Catalog.Built

namespace FacetedSearch

set_option autoImplicit false

namespace Facet

/-! ## Arranging -/

namespace Tree

theorem placementsAll_eq_flatMap (parent? : Option Key) (trees : List Tree) :
    placementsAll parent? trees = trees.flatMap (placements parent?) := by
  induction trees with
  | nil => rfl
  | cons tree rest ih => rw [placementsAll, List.flatMap_cons, ih]

theorem placementsAll_byOrder (parent? : Option Key) (order : Tree → Int) (trees : List Tree) :
    (placementsAll parent? (byOrder order trees)).Perm (placementsAll parent? trees) := by
  rw [placementsAll_eq_flatMap, placementsAll_eq_flatMap]
  exact (byOrder_perm order trees).flatMap_right _

mutual

/-- Arranging a tree moves its facets and leaves their parents. -/
theorem placements_arranged (parent? : Option Key) : (tree : Tree) →
    (tree.arranged.placements parent?).Perm (tree.placements parent?)
  | node facet children => by
      rw [arranged, placements, placements]
      exact ((placementsAll_byOrder _ _ _).trans
        (placementsAll_arrangedAll (some facet.key) children)).cons _

/-- Arranging trees moves their facets and leaves their parents. -/
theorem placementsAll_arrangedAll (parent? : Option Key) : (trees : List Tree) →
    (placementsAll parent? (arrangedAll trees)).Perm (placementsAll parent? trees)
  | [] => .refl _
  | tree :: rest => by
      rw [arrangedAll, placementsAll, placementsAll]
      exact (placements_arranged parent? tree).append (placementsAll_arrangedAll parent? rest)

end

end Tree

/-! ## Breaches -/

/-- The facet stands below the one whose key is its parent, if below any, and where it has a list of
search texts, the list has some. -/
structure Placement.Lawful (p : Placement) : Prop where
  parent : ∀ parent ∈ p.parent?, p.facet.key.parent? = some parent
  texts : ∀ scope, p.facet.texts.get? scope ≠ some []

/-- The scope reported is the first of those that have an empty list. -/
theorem emptyScope?_eq_find? (f : Facet) :
    f.emptyScope? =
      [Scope.narrow, .normal, .broad].find? fun scope => f.texts.get? scope = some [] := by
  have empty (scope : Scope) :
      (((f.texts.get? scope).map fun list => (scope, list)).any fun row => row.2.isEmpty) =
        decide (f.texts.get? scope = some []) := by
    cases f.texts.get? scope with
    | none => rfl
    | some list => cases list <;> simp
  rw [emptyScope?, SearchTexts.toList, List.find?_filterMap]
  simp only [empty]
  show Option.map Prod.fst (([Scope.narrow, .normal, .broad].find? _).bind _) = _
  cases found : [Scope.narrow, .normal, .broad].find? fun scope => f.texts.get? scope = some [] with
  | none => rfl
  | some scope =>
      have none_left : f.texts.get? scope = some [] := by simpa using List.find?_some found
      simp [none_left]

/-- A facet breaks no rule if it is lawful where it stands and its key is new. -/
theorem Placement.breach?_eq_none_iff {used : List Key} {p : Placement} :
    p.breach? used = none ↔ p.Lawful ∧ p.facet.key ∉ used := by
  have misplaced : p.misplaced? = none ↔
      ∀ parent ∈ p.parent?, p.facet.key.parent? = some parent := by
    cases above : p.parent? with
    | none => simp [misplaced?, above]
    | some parent => simp [misplaced?, above]
  have emptyTexts : p.emptyTexts? = none ↔ ∀ scope, p.facet.texts.get? scope ≠ some [] := by
    rw [emptyTexts?, emptyScope?_eq_find?, Option.map_eq_none_iff, List.find?_eq_none]
    constructor
    · intro none scope
      cases scope <;> simpa using none _ (by decide)
    · intro none scope _
      simpa using none scope
  have duplicate : p.duplicate? used = none ↔ p.facet.key ∉ used := by
    simp [duplicate?]
  simp only [breach?, Option.orElse_eq_orElse, Option.orElse_eq_or, Option.or_eq_none_iff,
    misplaced, emptyTexts, duplicate]
  exact ⟨fun ⟨parent, texts, new⟩ => ⟨⟨parent, texts⟩, new⟩,
    fun ⟨lawful, new⟩ => ⟨lawful.parent, lawful.texts, new⟩⟩

end Facet

/-- **Facets break no rule** if each is lawful where it stands and no key is used twice. -/
theorem firstBreach?_eq_none_iff {used : List Facet.Key} {placements : List Facet.Placement} :
    firstBreach? used placements = none ↔
      (∀ p ∈ placements, p.Lawful) ∧ (placements.map fun p => p.facet.key).Nodup ∧
        ∀ p ∈ placements, p.facet.key ∉ used := by
  induction placements generalizing used with
  | nil => simp [firstBreach?]
  | cons p rest ih =>
      rw [firstBreach?, Option.orElse_eq_orElse, Option.orElse_eq_or, Option.or_eq_none_iff, ih,
        Facet.Placement.breach?_eq_none_iff]
      rw [List.forall_mem_cons, List.forall_mem_cons, List.map_cons, List.nodup_cons]
      constructor
      · rintro ⟨⟨lawful, new⟩, others, nodup, apart⟩
        refine ⟨⟨lawful, others⟩, ⟨fun again => ?_, nodup⟩, new,
          fun q member known => apart q member (List.mem_cons_of_mem _ known)⟩
        obtain ⟨q, member, same⟩ := List.mem_map.1 again
        exact apart q member (same ▸ List.mem_cons_self)
      · rintro ⟨⟨lawful, others⟩, ⟨once, nodup⟩, new, apart⟩
        refine ⟨⟨lawful, new⟩, others, nodup, fun q member known => ?_⟩
        rcases List.mem_cons.1 known with same | known
        · exact once (same ▸ List.mem_map_of_mem member)
        · exact apart q member known

/-! ## Forests -/

/-- The facets of the trees with their parents. -/
def Forest.placements (forest : Forest) : List Facet.Placement :=
  Facet.Tree.placementsAll none forest.roots

/-- The facets of the trees. -/
def Forest.facets (forest : Forest) : List Facet := forest.placements.map Facet.Placement.facet

namespace Forest

variable {trees : List Facet.Tree} {forest : Forest}

theorem build_eq_ok_iff :
    build trees = .ok forest ↔
      firstBreach? [] (Facet.Tree.placementsAll none trees) = none ∧
        forest =
          { roots := Facet.byOrder (fun t => t.facet.order) (Facet.Tree.arrangedAll trees)
            index := (Facet.Tree.placementsAll none trees).map fun p => p.facet } := by
  unfold build
  simp only
  split
  · rename_i breach broken
    simp [broken]
  · rename_i sound
    simp [sound, eq_comm]

/-- **The trees hold the facets that were defined**, each below the one it was defined below. -/
theorem placements_perm_of_build (built : build trees = .ok forest) :
    forest.placements.Perm (Facet.Tree.placementsAll none trees) := by
  obtain ⟨-, rfl⟩ := build_eq_ok_iff.1 built
  exact (Facet.Tree.placementsAll_byOrder _ _ _).trans (Facet.Tree.placementsAll_arrangedAll _ _)

theorem nodup_index_of_build (built : build trees = .ok forest) :
    (forest.index.map Facet.key).Nodup := by
  obtain ⟨sound, rfl⟩ := build_eq_ok_iff.1 built
  simpa [List.map_map, Function.comp_def] using (firstBreach?_eq_none_iff.1 sound).2.1

theorem facets_perm_index_of_build (built : build trees = .ok forest) :
    forest.facets.Perm forest.index := by
  have placed := (placements_perm_of_build built).map Facet.Placement.facet
  obtain ⟨-, rfl⟩ := build_eq_ok_iff.1 built
  exact placed

/-- **A look up finds the facet of the trees that has the key.** -/
theorem find?_eq_some_iff (built : build trees = .ok forest) {key : Facet.Key} {f : Facet} :
    forest.find? key = some f ↔ f ∈ forest.facets ∧ f.key = key := by
  rw [find?, Keyed.lookup_eq_some_iff (nodup_index_of_build built),
    (facets_perm_index_of_build built).mem_iff]

end Forest

/-! ## Catalogs -/

theorem firstRepeated?_eq_none_iff {seen ids : List String} :
    firstRepeated? seen ids = none ↔ ids.Nodup ∧ ∀ id ∈ ids, id ∉ seen := by
  induction ids generalizing seen with
  | nil => simp [firstRepeated?]
  | cons id rest ih =>
      rw [firstRepeated?, List.nodup_cons, List.forall_mem_cons]
      split
      · rename_i known
        exact ⟨nofun, fun ⟨_, new, _⟩ => absurd known new⟩
      · rename_i new
        rw [ih]
        constructor
        · rintro ⟨nodup, others⟩
          exact ⟨⟨fun again => others id again List.mem_cons_self, nodup⟩, new,
            fun other member known => others other member (List.mem_cons_of_mem _ known)⟩
        · rintro ⟨⟨once, nodup⟩, -, others⟩
          refine ⟨nodup, fun other member known => ?_⟩
          rcases List.mem_cons.1 known with rfl | known
          · exact once member
          · exact others other member known

/-- The choices of a category are built from those that were defined. -/
theorem Category.choices_of_build {d : CategoryDefinition} {category : Category}
    (built : Category.build d = .ok category) : Forest.build d.choices = .ok category.choices := by
  obtain ⟨-, choices, run, rfl⟩ := Category.build_eq_ok_iff.1 built
  exact run

namespace Catalog

variable {d : Definitions} {catalog : Catalog}

theorem subjects_of_build (built : Catalog.build d = .ok catalog) :
    Forest.build d.subjects = .ok catalog.subjects := by
  obtain ⟨subjects, categories, run, -, -, rfl⟩ := build_eq_ok_iff.1 built
  exact run

theorem nodup_ids_of_build (built : Catalog.build d = .ok catalog) :
    (catalog.categories.map Category.id).Nodup := by
  obtain ⟨subjects, categories, -, -, apart, rfl⟩ := build_eq_ok_iff.1 built
  exact (firstRepeated?_eq_none_iff.1 apart).1

/-- **A category is found by its id.** -/
theorem category?_eq_some_iff (built : Catalog.build d = .ok catalog) {id : String}
    {category : Category} :
    catalog.category? id = some category ↔ category ∈ catalog.categories ∧ category.id = id :=
  Keyed.lookup_eq_some_iff (nodup_ids_of_build built)

/-- A facet stands in the trees for a position: the subjects, or the choices of a category. -/
inductive Holds (catalog : Catalog) : Link.Position → Facet → Prop
  | subject {f : Facet} (member : f ∈ catalog.subjects.facets) : Holds catalog .subject f
  | choice {category : Category} {f : Facet} (listed : category ∈ catalog.categories)
      (member : f ∈ category.choices.facets) : Holds catalog (.filter category.id) f

/-- **A look up finds the facet of its trees that has the key**, wherever it is made. -/
theorem findFacet?_eq_some_iff (built : Catalog.build d = .ok catalog) {position : Link.Position}
    {key : Facet.Key} {f : Facet} :
    Link.findFacet? catalog position key = some f ↔ catalog.Holds position f ∧ f.key = key := by
  cases position with
  | subject =>
      refine (Forest.find?_eq_some_iff (subjects_of_build built)).trans (and_congr_left fun _ => ?_)
      exact ⟨.subject, fun | .subject member => member⟩
  | filter name =>
      have choices : ∀ category ∈ catalog.categories,
          (category.choices.find? key = some f ↔ f ∈ category.choices.facets ∧ f.key = key) := by
        intro category listed
        obtain ⟨c, -, hc⟩ := mem_categories_of_build built category listed
        exact Forest.find?_eq_some_iff (Category.choices_of_build hc)
      simp only [Link.findFacet?, choice?, Option.bind_eq_some_iff, category?_eq_some_iff built]
      constructor
      · rintro ⟨category, ⟨listed, rfl⟩, found⟩
        obtain ⟨member, same⟩ := (choices category listed).1 found
        exact ⟨.choice listed member, same⟩
      · rintro ⟨holds, same⟩
        cases holds with
        | choice listed member =>
            exact ⟨_, ⟨listed, rfl⟩, (choices _ listed).2 ⟨member, same⟩⟩

end Catalog

end FacetedSearch
