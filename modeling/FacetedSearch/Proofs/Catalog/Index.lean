/-
# FacetedSearch.Proofs.Catalog.Index -- trees and look ups of a built catalog

A catalog shows its facets in trees and looks them up in an index that was filled before the trees
were sorted.  For every forest of a built catalog the two agree (`Tree.IndexedBy`): a look up finds
the facet of the node that has the key, and each key that a look up finds stands at one node.  The
forests are the subjects and the choices of each category, and a look up in one never finds a facet
of another, though it may have the same key (`Catalog.look_ups_agree_with_trees`).
-/
import FacetedSearch.Proofs.Catalog.Breaches

namespace FacetedSearch

set_option autoImplicit false

/-- Lawful trees whose nodes are what the look up finds. -/
structure Facet.Tree.IndexedBy (find? : Facet.Key → Option Facet) (roots : List Facet.Tree) : Prop
    extends Facet.Tree.Lawful roots where
  /-- The facet found for a key is that of the node that has the key. -/
  found : ∀ key f, find? key = some f ↔
    (∃ root ∈ roots, ∃ level node, root.NodeAt level node ∧ node.facet = f) ∧ f.key = key
  /-- A key stands at one node if a look up finds it, and else at none. -/
  once : ∀ key, (Facet.Tree.keysAll roots).count key = if (find? key).isSome then 1 else 0
  level_le : ∀ root ∈ roots, ∀ level node, root.NodeAt level node → level ≤ 3

namespace Forest

variable {trees : List Facet.Tree} {forest : Forest}

theorem mem_facets_iff {f : Facet} :
    f ∈ forest.facets ↔
      ∃ root ∈ forest.roots, ∃ level node, root.NodeAt level node ∧ node.facet = f := by
  rw [facets, List.mem_map]
  constructor
  · rintro ⟨p, placed, rfl⟩
    obtain ⟨root, member, places⟩ := (Facet.Tree.mem_placementsAll_iff none _).1 placed
    exact ⟨root, member, places.exists_nodeAt⟩
  · rintro ⟨root, member, level, node, stands, rfl⟩
    obtain ⟨parent?, places⟩ := stands.places none
    exact ⟨_, (Facet.Tree.mem_placementsAll_iff none _).2 ⟨root, member, places⟩, rfl⟩

theorem map_key_facets (forest : Forest) :
    forest.facets.map Facet.key = Facet.Tree.keysAll forest.roots := by
  rw [facets, List.map_map, ← Facet.Tree.map_key_placementsAll none]
  rfl

theorem lawful_of_build (built : build trees = .ok forest) : Facet.Tree.Lawful forest.roots :=
  (Facet.Tree.lawful_congr (placements_perm_of_build built)).2
    ((Facet.Tree.firstBreach?_eq_none_iff_lawful trees).1 (build_eq_ok_iff.1 built).1)

/-- **The trees of a built forest are indexed by its look up.** -/
theorem indexedBy_of_build (built : build trees = .ok forest) :
    Facet.Tree.IndexedBy forest.find? forest.roots := by
  have lawful := lawful_of_build built
  refine
    { toLawful := lawful
      found := fun key f => by rw [find?_eq_some_iff built, mem_facets_iff]
      once := fun key => ?_
      level_le := fun root member level node => lawful.level_le member }
  have known : key ∈ Facet.Tree.keysAll forest.roots ↔ (forest.find? key).isSome := by
    rw [← map_key_facets, List.mem_map, Option.isSome_iff_exists]
    exact exists_congr fun f => (find?_eq_some_iff built).symm
  rw [lawful.keys.count, if_congr known rfl rfl]

end Forest

namespace Catalog

variable {d : Definitions} {catalog : Catalog}

/-- **Trees and look ups of a built catalog agree**, for the subjects and for the choices of each
category, and a category is found by its own id. -/
theorem look_ups_agree_with_trees (built : Catalog.build d = .ok catalog) :
    Facet.Tree.IndexedBy catalog.subject? catalog.subjects.roots ∧
      (∀ category ∈ catalog.categories,
        Facet.Tree.IndexedBy (catalog.choice? category.id) category.choices.roots) ∧
      (∀ category ∈ catalog.categories, category.id ≠ "" ∧ category.id ∉ reservedNames) ∧
      (catalog.categories.map Category.id).Nodup ∧
      (∀ id category, catalog.category? id = some category ↔
        category ∈ catalog.categories ∧ category.id = id) ∧
      ∀ id, id ∉ catalog.categories.map Category.id → ∀ key, catalog.choice? id key = none := by
  refine ⟨Forest.indexedBy_of_build (subjects_of_build built), fun category member => ?_,
    id_of_build built, nodup_ids_of_build built, fun id category => category?_eq_some_iff built,
    fun id absent key => ?_⟩
  · obtain ⟨c, -, hc⟩ := mem_categories_of_build built category member
    have found : catalog.category? category.id = some category :=
      (category?_eq_some_iff built).2 ⟨member, rfl⟩
    have own : catalog.choice? category.id = category.choices.find? := by
      funext key
      rw [choice?, found, Option.bind_some]
    rw [own]
    exact Forest.indexedBy_of_build (Category.choices_of_build hc)
  · have none : catalog.category? id = none := Keyed.lookup_eq_none_iff.2 absent
    rw [choice?, none, Option.bind_none]

namespace Example

/-- A key of three forests. -/
def sharedKey : Facet.Key := ⟨"x", none, none, none⟩

/-- Subjects above and below others, and one key in three forests, none of them in order. -/
def nested : Definitions where
  subjects :=
    [.node { key := ⟨"onc", none, none, none⟩, order := 2 }
      [.node { key := ⟨"onc", some 2, none, none⟩ } [],
        .node { key := ⟨"onc", some 1, none, none⟩, order := -1 } []],
      .node { key := sharedKey, texts := { normal := some ["s[ti]"] } } []]
  categories :=
    [{ id := "type", order := 1, choices := [.node { key := sharedKey, order := 3 } []] },
      { id := "age", choices := [.node { key := sharedKey, order := 4 } []] }]

def nestedCatalog : Catalog where
  subjects :=
    { roots :=
        [.node { key := sharedKey, texts := { normal := some ["s[ti]"] } } [],
          .node { key := ⟨"onc", none, none, none⟩, order := 2 }
            [.node { key := ⟨"onc", some 1, none, none⟩, order := -1 } [],
              .node { key := ⟨"onc", some 2, none, none⟩ } []]]
      index :=
        [{ key := ⟨"onc", none, none, none⟩, order := 2 }, { key := ⟨"onc", some 2, none, none⟩ },
          { key := ⟨"onc", some 1, none, none⟩, order := -1 },
          { key := sharedKey, texts := { normal := some ["s[ti]"] } }] }
  categories :=
    [⟨"age", {}, 0,
        { roots := [.node { key := sharedKey, order := 4 } []]
          index := [{ key := sharedKey, order := 4 }] }⟩,
      ⟨"type", {}, 1,
        { roots := [.node { key := sharedKey, order := 3 } []]
          index := [{ key := sharedKey, order := 3 }] }⟩]

theorem build_nested : Catalog.build nested = .ok nestedCatalog := by cbv

end Example

theorem look_ups_agree_of_nested :
    Catalog.build Example.nested = .ok Example.nestedCatalog ∧
      Facet.Tree.IndexedBy Example.nestedCatalog.subject? Example.nestedCatalog.subjects.roots ∧
      ∀ key, Example.nestedCatalog.choice? "language" key = none := by
  have agree := look_ups_agree_with_trees Example.build_nested
  exact ⟨Example.build_nested, agree.1, agree.2.2.2.2.2 "language" (by decide)⟩

end Catalog

end FacetedSearch
