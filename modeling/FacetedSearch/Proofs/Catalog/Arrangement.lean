/-
# FacetedSearch.Proofs.Catalog.Arrangement -- what sorting siblings keeps

Siblings are sorted by their order at every depth of a tree, and so are categories.  Sorting loses
nothing and leaves ties as they were written (`StablySorted`), so each facet stands once, with all
its data, below the facet that it was defined below (`Tree.Arranges`).  Definitions that differ in
the sequence of siblings and of categories, but not of ties (`Definitions.Rearranged`), build the
same catalog or none (`Catalog.build_arranges`).  The index is filled as the definitions are written
and may differ; what look ups find does not.
-/
import FacetedSearch.Proofs.Catalog.Index

namespace FacetedSearch

set_option autoImplicit false

namespace Facet

/-! ## Trees -/

namespace Tree

/-- The number that a tree is sorted by. -/
abbrev order (tree : Tree) : Int := tree.facet.order

/-- The second tree has the facets of the first, each below the same one, with siblings sorted. -/
inductive Arranges : Tree → Tree → Prop
  | node {facet : Facet} {children placed sorted : List Tree}
      (each : List.Forall₂ Arranges children placed) (sorting : StablySorted order placed sorted) :
      Arranges (node facet children) (node facet sorted)

/-- Each of the trees is arranged, and then they are sorted. -/
def ArrangesAll (trees roots : List Tree) : Prop :=
  ∃ placed, List.Forall₂ Arranges trees placed ∧ StablySorted order placed roots

/-- The trees differ in the sequence of siblings only, and ties are as they were. -/
inductive Rearranged : Tree → Tree → Prop
  | node {facet : Facet} {children moved others : List Tree}
      (each : List.Forall₂ Rearranged children moved) (moves : Reordered order moved others) :
      Rearranged (node facet children) (node facet others)

/-- Each of the trees is rearranged, and then they are reordered. -/
def RearrangedAll (trees others : List Tree) : Prop :=
  ∃ moved, List.Forall₂ Rearranged trees moved ∧ Reordered order moved others

/-- The trees as a forest shows them. -/
def sortedAll (trees : List Tree) : List Tree := byOrder order (arrangedAll trees)

theorem order_arranged (tree : Tree) : tree.arranged.order = tree.order := by
  cases tree
  rfl

theorem arrangedAll_eq_map (trees : List Tree) : arrangedAll trees = trees.map arranged := by
  induction trees with
  | nil => rfl
  | cons tree rest ih => rw [arrangedAll, List.map_cons, ih]

mutual

theorem arranges_arranged : (tree : Tree) → tree.Arranges tree.arranged
  | node _ children => .node (forall₂_arranged children) (stablySorted_byOrder order _)

theorem forall₂_arranged : (trees : List Tree) → List.Forall₂ Arranges trees (arrangedAll trees)
  | [] => .nil
  | tree :: rest => .cons (arranges_arranged tree) (forall₂_arranged rest)

end

/-- **A forest shows each defined facet once, in its place.** -/
theorem arrangesAll_sortedAll (trees : List Tree) : ArrangesAll trees (sortedAll trees) :=
  ⟨_, forall₂_arranged trees, stablySorted_byOrder order _⟩

theorem sortedAll_eq_of_reordered {trees others : List Tree}
    (reordered : Reordered order trees others) : sortedAll trees = sortedAll others := by
  rw [sortedAll, sortedAll, arrangedAll_eq_map, arrangedAll_eq_map]
  exact byOrder_eq_of_reordered (reordered.map order_arranged)

mutual

theorem arranged_eq_of_rearranged : (tree : Tree) → ∀ {other : Tree}, tree.Rearranged other →
    tree.arranged = other.arranged
  | node facet children, _, .node each moves => by
      have same : sortedAll children = sortedAll _ :=
        (congrArg (byOrder order) (arrangedAll_eq_of_rearranged children each)).trans
          (sortedAll_eq_of_reordered moves)
      exact congrArg (node facet) same

theorem arrangedAll_eq_of_rearranged : (trees : List Tree) → ∀ {others : List Tree},
    List.Forall₂ Rearranged trees others → arrangedAll trees = arrangedAll others
  | [], _, .nil => rfl
  | tree :: rest, _, .cons here others => by
      rw [arrangedAll, arrangedAll, arranged_eq_of_rearranged tree here,
        arrangedAll_eq_of_rearranged rest others]

end

/-- **Rearranged trees are shown alike.** -/
theorem RearrangedAll.sortedAll_eq {trees others : List Tree}
    (rearranged : RearrangedAll trees others) : sortedAll trees = sortedAll others := by
  obtain ⟨moved, each, moves⟩ := rearranged
  exact (congrArg (byOrder order) (arrangedAll_eq_of_rearranged trees each)).trans
    (sortedAll_eq_of_reordered moves)

theorem lawful_sortedAll (trees : List Tree) : Lawful (sortedAll trees) ↔ Lawful trees :=
  lawful_congr ((placementsAll_byOrder none order _).trans (placementsAll_arrangedAll none trees))

end Tree

end Facet

/-! ## Definitions -/

/-- The second category has the data of the first, and its choices are those of the first,
rearranged. -/
structure CategoryDefinition.Rearranged (c other : CategoryDefinition) : Prop where
  id : other.id = c.id
  labels : other.labels = c.labels
  order : other.order = c.order
  choices : Facet.Tree.RearrangedAll c.choices other.choices

/-- The second category has the data of the first, and its choices are those of the first,
arranged. -/
structure CategoryDefinition.Arranges (c shown : CategoryDefinition) : Prop where
  id : shown.id = c.id
  labels : shown.labels = c.labels
  order : shown.order = c.order
  choices : Facet.Tree.ArrangesAll c.choices shown.choices

/-- The category with its choices as a forest shows them. -/
def CategoryDefinition.sorted (c : CategoryDefinition) : CategoryDefinition :=
  { c with choices := Facet.Tree.sortedAll c.choices }

namespace CategoryDefinition

theorem arranges_sorted (c : CategoryDefinition) : c.Arranges c.sorted :=
  ⟨rfl, rfl, rfl, Facet.Tree.arrangesAll_sortedAll c.choices⟩

theorem Rearranged.sorted_eq {c other : CategoryDefinition} (rearranged : c.Rearranged other) :
    c.sorted = other.sorted := by
  obtain ⟨id, labels, order, choices⟩ := rearranged
  rw [sorted, sorted, id, labels, order, choices.sortedAll_eq]

end CategoryDefinition

namespace Definitions

/-- The definitions differ in the sequence of siblings, at any depth, and of categories only, and
ties are as they were. -/
structure Rearranged (d other : Definitions) : Prop where
  subjects : Facet.Tree.RearrangedAll d.subjects other.subjects
  categories : ∃ moved, List.Forall₂ CategoryDefinition.Rearranged d.categories moved ∧
    Facet.Reordered CategoryDefinition.order moved other.categories

/-- The second definitions have the facets and categories of the first, each facet below the same
one, and siblings and categories are sorted. -/
structure Arranges (d shown : Definitions) : Prop where
  subjects : Facet.Tree.ArrangesAll d.subjects shown.subjects
  categories : ∃ placed, List.Forall₂ CategoryDefinition.Arranges d.categories placed ∧
    Facet.StablySorted CategoryDefinition.order placed shown.categories

/-- The definitions as a catalog shows them. -/
def sorted (d : Definitions) : Definitions where
  subjects := Facet.Tree.sortedAll d.subjects
  categories :=
    Facet.byOrder CategoryDefinition.order (d.categories.map CategoryDefinition.sorted)

variable {d other : Definitions}

theorem arranges_sorted (d : Definitions) : d.Arranges d.sorted := by
  refine ⟨Facet.Tree.arrangesAll_sortedAll d.subjects, d.categories.map CategoryDefinition.sorted,
    ?_, Facet.stablySorted_byOrder _ _⟩
  rw [List.forall₂_map_right_iff, List.forall₂_same]
  exact fun c _ => c.arranges_sorted

theorem Rearranged.sorted_eq (rearranged : d.Rearranged other) : d.sorted = other.sorted := by
  obtain ⟨moved, each, moves⟩ := rearranged.categories
  have same : d.categories.map CategoryDefinition.sorted =
      moved.map CategoryDefinition.sorted := by
    rw [← List.forall₂_eq_eq_eq, List.forall₂_map_left_iff, List.forall₂_map_right_iff]
    exact each.imp fun _ _ here => here.sorted_eq
  have reordered : Facet.Reordered CategoryDefinition.order
      (moved.map CategoryDefinition.sorted) (other.categories.map CategoryDefinition.sorted) :=
    moves.map fun _ => rfl
  rw [sorted, sorted, rearranged.subjects.sortedAll_eq, same,
    Facet.byOrder_eq_of_reordered reordered]

theorem mem_categories_sorted {c : CategoryDefinition} :
    c ∈ d.sorted.categories ↔ ∃ own ∈ d.categories, own.sorted = c := by
  rw [← List.mem_map]
  exact (Facet.byOrder_perm _ _).mem_iff

/-- Sorting keeps the rules and their breaches. -/
theorem lawful_sorted : d.sorted.Lawful ↔ d.Lawful := by
  have ids : (d.sorted.categories.map CategoryDefinition.id).Perm
      (d.categories.map CategoryDefinition.id) := by
    have sorted := (Facet.byOrder_perm CategoryDefinition.order
      (d.categories.map CategoryDefinition.sorted)).map CategoryDefinition.id
    rw [List.map_map] at sorted
    exact sorted
  constructor
  · intro lawful
    have shown (c : CategoryDefinition) (member : c ∈ d.categories) :=
      mem_categories_sorted.2 ⟨c, member, rfl⟩
    exact
      { subjects := (Facet.Tree.lawful_sortedAll _).1 lawful.subjects
        choices := fun c member =>
          (Facet.Tree.lawful_sortedAll _).1 (lawful.choices _ (shown c member))
        names := fun c member => lawful.names c.sorted (shown c member)
        ids := ids.nodup_iff.1 lawful.ids }
  · intro lawful
    refine
      { subjects := (Facet.Tree.lawful_sortedAll _).2 lawful.subjects
        choices := fun c member => ?_
        names := fun c member => ?_
        ids := ids.nodup_iff.2 lawful.ids }
    · obtain ⟨own, known, rfl⟩ := mem_categories_sorted.1 member
      exact (Facet.Tree.lawful_sortedAll _).2 (lawful.choices own known)
    · obtain ⟨own, known, rfl⟩ := mem_categories_sorted.1 member
      exact lawful.names own known

end Definitions

/-! ## Catalogs -/

/-- The definition that a category shows. -/
def Category.shown (category : Category) : CategoryDefinition :=
  ⟨category.id, category.labels, category.order, category.choices.roots⟩

/-- The definitions that a catalog shows: its trees and its categories, in order. -/
def Catalog.shown (catalog : Catalog) : Definitions :=
  ⟨catalog.subjects.roots, catalog.categories.map Category.shown⟩

namespace Catalog

variable {d other : Definitions} {catalog twin : Catalog}

/-- A built catalog shows the definitions, sorted. -/
theorem shown_of_build (built : Catalog.build d = .ok catalog) : catalog.shown = d.sorted := by
  obtain ⟨subjects, categories, trees, run, -, rfl⟩ := build_eq_ok_iff.1 built
  have roots : subjects.roots = Facet.Tree.sortedAll d.subjects := by
    rw [(Forest.build_eq_ok_iff.1 trees).2]
    rfl
  have own : categories.map Category.shown = d.categories.map CategoryDefinition.sorted := by
    rw [← List.forall₂_eq_eq_eq, List.forall₂_map_left_iff, List.forall₂_map_right_iff]
    refine (forall₂_of_mapM_ok run).flip.imp fun category c built => ?_
    obtain ⟨-, choices, choice_trees, rfl⟩ := Category.build_eq_ok_iff.1 built
    rw [(Forest.build_eq_ok_iff.1 choice_trees).2]
    rfl
  rw [shown, Definitions.sorted, roots, ← own, Facet.byOrder_map]
  rfl

theorem holds_of_shown (same : catalog.shown = twin.shown) {position : Link.Position} {f : Facet}
    (holds : catalog.Holds position f) : twin.Holds position f := by
  have roots : catalog.subjects.roots = twin.subjects.roots := congrArg Definitions.subjects same
  have categories : catalog.categories.map Category.shown = twin.categories.map Category.shown :=
    congrArg Definitions.categories same
  have facets {a b : Forest} (same : a.roots = b.roots) : a.facets = b.facets := by
    rw [Forest.facets, Forest.placements, same]
    rfl
  cases holds with
  | subject member => exact .subject (facets roots ▸ member)
  | @choice category f listed member =>
      have shown : category.shown ∈ twin.categories.map Category.shown :=
        categories ▸ List.mem_map_of_mem listed
      obtain ⟨own, own_listed, own_shown⟩ := List.mem_map.1 shown
      have id : own.id = category.id := congrArg CategoryDefinition.id own_shown
      have trees : own.choices.roots = category.choices.roots :=
        congrArg CategoryDefinition.choices own_shown
      rw [← facets trees] at member
      exact id ▸ .choice own_listed member

/-- Catalogs that show the same find the same. -/
theorem findFacet?_of_shown (built : Catalog.build d = .ok catalog)
    (twin_built : Catalog.build other = .ok twin) (same : catalog.shown = twin.shown)
    (position : Link.Position) (key : Facet.Key) :
    Link.findFacet? catalog position key = Link.findFacet? twin position key := by
  refine Option.ext fun f => ?_
  rw [findFacet?_eq_some_iff built, findFacet?_eq_some_iff twin_built]
  exact and_congr_left fun _ => ⟨holds_of_shown same, holds_of_shown same.symm⟩

theorem category?_shown (catalog : Catalog) (id : String) :
    (catalog.category? id).map Category.shown =
      Keyed.lookup CategoryDefinition.id id catalog.shown.categories := by
  rw [shown, Keyed.lookup, List.find?_map]
  rfl

/-- **Building loses nothing and sorts stably**, so it does not matter how siblings and categories
are written as long as ties are left in sequence: no definitions are refused for it, and the catalog
shows and finds the same. -/
theorem build_arranges (d : Definitions) :
    (∀ catalog, Catalog.build d = .ok catalog → d.Arranges catalog.shown) ∧
      ∀ other, d.Rearranged other →
        ((∃ catalog, Catalog.build d = .ok catalog) ↔
          ∃ catalog, Catalog.build other = .ok catalog) ∧
        ∀ catalog twin, Catalog.build d = .ok catalog → Catalog.build other = .ok twin →
          catalog.shown = twin.shown ∧
            (∀ key, catalog.subject? key = twin.subject? key) ∧
            (∀ id, (catalog.category? id).map Category.shown =
              (twin.category? id).map Category.shown) ∧
            ∀ id key, catalog.choice? id key = twin.choice? id key := by
  refine ⟨fun catalog built => ?_,
    fun other rearranged => ⟨?_, fun catalog twin built twin_built => ?_⟩⟩
  · rw [shown_of_build built]
    exact d.arranges_sorted
  · rw [exists_build_iff, exists_build_iff, ← Definitions.lawful_sorted, rearranged.sorted_eq,
      Definitions.lawful_sorted]
  · have same : catalog.shown = twin.shown := by
      rw [shown_of_build built, shown_of_build twin_built, rearranged.sorted_eq]
    refine ⟨same, findFacet?_of_shown built twin_built same .subject, fun id => ?_,
      fun id => findFacet?_of_shown built twin_built same (.filter id)⟩
    rw [category?_shown, category?_shown, same]

namespace Example

/-- The definitions `nested` with siblings and categories in another sequence. -/
def moved : Definitions where
  subjects :=
    [.node { key := sharedKey, texts := { normal := some ["s[ti]"] } } [],
      .node { key := ⟨"onc", none, none, none⟩, order := 2 }
        [.node { key := ⟨"onc", some 1, none, none⟩, order := -1 } [],
          .node { key := ⟨"onc", some 2, none, none⟩ } []]]
  categories :=
    [{ id := "age", choices := [.node { key := sharedKey, order := 4 } []] },
      { id := "type", order := 1, choices := [.node { key := sharedKey, order := 3 } []] }]

def movedCatalog : Catalog where
  subjects :=
    { roots := moved.subjects
      index :=
        [{ key := sharedKey, texts := { normal := some ["s[ti]"] } },
          { key := ⟨"onc", none, none, none⟩, order := 2 },
          { key := ⟨"onc", some 1, none, none⟩, order := -1 },
          { key := ⟨"onc", some 2, none, none⟩ }] }
  categories := nestedCatalog.categories

theorem build_moved : Catalog.build moved = .ok movedCatalog := by cbv

theorem rearranged_leaf (facet : Facet) :
    (Facet.Tree.node facet []).Rearranged (.node facet []) :=
  .node .nil (.refl _ _)

theorem rearranged_moved : nested.Rearranged moved where
  subjects :=
    ⟨_, .cons
        (.node (.cons (rearranged_leaf _) (.cons (rearranged_leaf _) .nil)) (.swap (by decide) []))
        (.cons (rearranged_leaf _) .nil),
      .swap (by decide) []⟩
  categories :=
    ⟨_, .cons ⟨rfl, rfl, rfl, _, .cons (rearranged_leaf _) .nil, .refl _ _⟩
        (.cons ⟨rfl, rfl, rfl, _, .cons (rearranged_leaf _) .nil, .refl _ _⟩ .nil),
      .swap (by decide) []⟩

end Example

theorem build_arranges_of_nested :
    Catalog.build Example.nested = .ok Example.nestedCatalog ∧
      Catalog.build Example.moved = .ok Example.movedCatalog ∧
      Example.nested.Arranges Example.nestedCatalog.shown ∧
      Example.nested.Rearranged Example.moved ∧
      Example.nestedCatalog.shown = Example.movedCatalog.shown ∧
      ∀ key, Example.nestedCatalog.subject? key = Example.movedCatalog.subject? key := by
  have arranges := build_arranges Example.nested
  have alike := (arranges.2 Example.moved Example.rearranged_moved).2 _ _ Example.build_nested
    Example.build_moved
  exact ⟨Example.build_nested, Example.build_moved, arranges.1 _ Example.build_nested,
    Example.rearranged_moved, alike.1, alike.2.1⟩

end Catalog

end FacetedSearch
