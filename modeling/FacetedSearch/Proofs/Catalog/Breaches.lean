/-
# FacetedSearch.Proofs.Catalog.Breaches -- all breaches of definitions, in order

Building stops at the first breach.  Here all of them are listed, in the order in which they are
reported (`Definitions.breaches`): those of the subjects, each facet before the ones below it and
these before its next sibling; then category by category a reserved id and the breaches of its
choices; and last the ids that come again when the categories are sorted by their order.  The sorted
categories are given: they are the one list that ascends with ties as they were written.

Definitions without a breach are those that obey the rules (`Definitions.Lawful`), which know no
order.  So a catalog is built if and only if the definitions are lawful, and otherwise the breach
reported is the first of the list (`Catalog.build_reports_first_breach`).  The traversal keeps the
keys it has met; `firstBreach?_append` hands them on from one part of a forest to the next.
-/
import FacetedSearch.Proofs.Catalog.Nodes

namespace FacetedSearch

set_option autoImplicit false

/-! ## Breaches in order -/

/-- The rules that a facet breaks below another and after facets with the earlier keys. -/
def Facet.breaches (f : Facet) (above? : Option Facet.Key) (earlier : List Facet.Key) :
    List BuildError :=
  (above?.toList.filter fun parent => f.key.parent? ≠ some parent).map (.misplacedFacet f.key) ++
    ([Scope.narrow, .normal, .broad].filter fun scope => f.texts.get? scope = some []).map
      (.emptySearchTexts f.key) ++
    if f.key ∈ earlier then [.duplicateFacet f.key] else []

namespace Facet.Tree

mutual

/-- The breaches of a tree, those of a facet before those below it. -/
def breaches (above? : Option Key) (earlier : List Key) : Tree → List BuildError
  | node facet children =>
    facet.breaches above? earlier ++
      breachesAll (some facet.key) (earlier ++ [facet.key]) children

/-- The breaches of sibling trees, those of a tree before those of the next. -/
def breachesAll (above? : Option Key) (earlier : List Key) : List Tree → List BuildError
  | [] => []
  | tree :: rest =>
    tree.breaches above? earlier ++ breachesAll above? (earlier ++ tree.keys) rest

end

end Facet.Tree

/-- The breaches of a category, that of its id before those of its choices. -/
def CategoryDefinition.breaches (c : CategoryDefinition) : List BuildError :=
  (if c.id = "" ∨ c.id ∈ reservedNames then [.reservedCategory c.id] else []) ++
    Facet.Tree.breachesAll none [] c.choices

/-- The texts that stand among the earlier ones, or before in the list. -/
def repeated (earlier : List String) : List String → List String
  | [] => []
  | id :: rest => (if id ∈ earlier then [id] else []) ++ repeated (earlier ++ [id]) rest

/-- All breaches of the definitions, in the order in which they are reported; the categories are
also given in their sorted sequence. -/
def Definitions.breaches (d : Definitions) (sorted : List CategoryDefinition) : List BuildError :=
  Facet.Tree.breachesAll none [] d.subjects ++
    d.categories.flatMap CategoryDefinition.breaches ++
    (repeated [] (sorted.map CategoryDefinition.id)).map .duplicateCategory

/-- What definitions have to obey. -/
structure Definitions.Lawful (d : Definitions) : Prop where
  subjects : Facet.Tree.Lawful d.subjects
  choices : ∀ c ∈ d.categories, Facet.Tree.Lawful c.choices
  names : ∀ c ∈ d.categories, c.id ≠ "" ∧ c.id ∉ reservedNames
  ids : (d.categories.map CategoryDefinition.id).Nodup

/-! ## Facets -/

namespace Facet

variable {used earlier : List Key}

/-- The rule reported is the first of those that the facet breaks. -/
theorem Placement.breach?_eq_head? (same : ∀ key, key ∈ used ↔ key ∈ earlier) (p : Placement) :
    p.breach? used = (p.facet.breaches p.parent? earlier).head? := by
  have misplaced : p.misplaced? = ((p.parent?.toList.filter fun parent =>
      p.facet.key.parent? ≠ some parent).map (.misplacedFacet p.facet.key)).head? := by
    cases above : p.parent? with
    | none => simp [misplaced?, above]
    | some parent =>
        by_cases placed : p.facet.key.parent? = some parent <;> simp [misplaced?, above, placed]
  have emptyTexts : p.emptyTexts? = (([Scope.narrow, .normal, .broad].filter fun scope =>
      p.facet.texts.get? scope = some []).map (.emptySearchTexts p.facet.key)).head? := by
    rw [emptyTexts?, emptyScope?_eq_find?, List.head?_map, List.head?_filter]
  have duplicate : p.duplicate? used =
      (if p.facet.key ∈ earlier then [.duplicateFacet p.facet.key] else []).head? := by
    by_cases known : p.facet.key ∈ earlier <;> simp [duplicate?, same, known]
  rw [breach?, misplaced, emptyTexts, duplicate, breaches, List.head?_append, List.head?_append]
  simp only [Option.orElse_eq_orElse, Option.orElse_eq_or, Option.or_assoc]

end Facet

/-! ## Forests -/

/-- What follows placements is looked at if they have no breach, with their keys used. -/
theorem firstBreach?_append (used : List Facet.Key) (a b : List Facet.Placement) :
    firstBreach? used (a ++ b) =
      (firstBreach? used a).or
        (firstBreach? ((a.map fun p => p.facet.key).reverse ++ used) b) := by
  induction a generalizing used with
  | nil => rfl
  | cons p rest ih =>
      rw [List.cons_append, firstBreach?, firstBreach?, ih]
      simp only [Option.orElse_eq_orElse, Option.orElse_eq_or, Option.or_assoc, List.map_cons,
        List.reverse_cons, List.append_assoc, List.singleton_append]

namespace Facet.Tree

mutual

theorem firstBreach?_placements (above? : Option Key) : (tree : Tree) →
    ∀ {used earlier : List Key}, (∀ key, key ∈ used ↔ key ∈ earlier) →
      firstBreach? used (tree.placements above?) = (tree.breaches above? earlier).head?
  | node facet children, used, earlier, same => by
      have used_now : ∀ key, key ∈ facet.key :: used ↔ key ∈ earlier ++ [facet.key] := by
        intro key
        rw [List.mem_cons, List.mem_append, List.mem_singleton, same, or_comm]
      rw [placements, firstBreach?, breaches, List.head?_append,
        Placement.breach?_eq_head? same, firstBreach?_placementsAll _ children used_now,
        Option.orElse_eq_orElse, Option.orElse_eq_or]

/-- **Checking placement by placement finds the first of all breaches.** -/
theorem firstBreach?_placementsAll (above? : Option Key) : (trees : List Tree) →
    ∀ {used earlier : List Key}, (∀ key, key ∈ used ↔ key ∈ earlier) →
      firstBreach? used (placementsAll above? trees) = (breachesAll above? earlier trees).head?
  | [], _, _, _ => rfl
  | tree :: rest, used, earlier, same => by
      have used_now : ∀ key, key ∈ tree.keys.reverse ++ used ↔ key ∈ earlier ++ tree.keys := by
        intro key
        rw [List.mem_append, List.mem_append, List.mem_reverse, same, or_comm]
      rw [placementsAll, firstBreach?_append, map_key_placements, breachesAll, List.head?_append,
        firstBreach?_placements above? tree same, firstBreach?_placementsAll above? rest used_now]

end

theorem firstBreach?_eq_none_iff_lawful (trees : List Tree) :
    firstBreach? [] (placementsAll none trees) = none ↔ Lawful trees := by
  rw [firstBreach?_eq_none_iff, lawful_iff_placements]
  simp

/-- Trees have no breach if and only if they are lawful. -/
theorem breachesAll_eq_nil_iff (trees : List Tree) :
    breachesAll none [] trees = [] ↔ Lawful trees := by
  rw [← firstBreach?_eq_none_iff_lawful, firstBreach?_placementsAll none trees fun _ => Iff.rfl,
    List.head?_eq_none_iff]

end Facet.Tree

/-! ## What building ends with -/

/-- The breach that a build ends with, if it ends with one. -/
def BuildError.of? {α : Type} : Except BuildError α → Option BuildError
  | .error breach => some breach
  | .ok _ => none

namespace BuildError

variable {α β : Type}

theorem of?_eq_some_iff {run : Except BuildError α} {breach : BuildError} :
    of? run = some breach ↔ run = .error breach := by
  cases run <;> simp [of?]

theorem of?_eq_none_iff {run : Except BuildError α} :
    of? run = none ↔ ∃ result, run = .ok result := by
  cases run <;> simp [of?]

/-- A list is built up to the first breach of any member. -/
theorem of?_mapM {build : α → Except BuildError β} {breaches : α → List BuildError}
    (first : ∀ x, of? (build x) = (breaches x).head?) (xs : List α) :
    of? (xs.mapM build) = (xs.flatMap breaches).head? := by
  induction xs with
  | nil => rfl
  | cons x rest ih =>
      rw [List.mapM_cons, List.flatMap_cons, List.head?_append, ← first, ← ih]
      cases build x with
      | error breach => rfl
      | ok y => cases rest.mapM build <;> rfl

end BuildError

theorem Forest.of?_build (trees : List Facet.Tree) :
    BuildError.of? (Forest.build trees) = (Facet.Tree.breachesAll none [] trees).head? := by
  rw [← Facet.Tree.firstBreach?_placementsAll none trees fun _ => Iff.rfl]
  unfold Forest.build
  simp only
  split <;> simp [BuildError.of?, *]

theorem Category.of?_build (c : CategoryDefinition) :
    BuildError.of? (Category.build c) = c.breaches.head? := by
  unfold Category.build CategoryDefinition.breaches
  split
  · rfl
  · rw [List.nil_append, ← Forest.of?_build]
    cases Forest.build c.choices <;> rfl

/-! ## Ids -/

theorem firstRepeated?_eq_head? {seen earlier : List String}
    (same : ∀ id, id ∈ seen ↔ id ∈ earlier) (ids : List String) :
    firstRepeated? seen ids = (repeated earlier ids).head? := by
  induction ids generalizing seen earlier with
  | nil => rfl
  | cons id rest ih =>
      rw [firstRepeated?, repeated]
      by_cases known : id ∈ earlier
      · simp [(same id).2 known, known]
      · have seen_now : ∀ other, other ∈ id :: seen ↔ other ∈ earlier ++ [id] := by
          intro other
          rw [List.mem_cons, List.mem_append, List.mem_singleton, same, or_comm]
        have new : id ∉ seen := fun member => known ((same id).1 member)
        simp [new, known, ih seen_now]

theorem repeated_eq_nil_iff {ids : List String} : repeated [] ids = [] ↔ ids.Nodup := by
  rw [← List.head?_eq_none_iff, ← firstRepeated?_eq_head? fun _ => Iff.rfl,
    firstRepeated?_eq_none_iff]
  simp

/-! ## Definitions -/

theorem CategoryDefinition.breaches_eq_nil_iff (c : CategoryDefinition) :
    c.breaches = [] ↔ (c.id ≠ "" ∧ c.id ∉ reservedNames) ∧ Facet.Tree.Lawful c.choices := by
  rw [breaches, List.append_eq_nil_iff, Facet.Tree.breachesAll_eq_nil_iff]
  refine and_congr_left fun _ => ?_
  simp

/-- **Definitions have no breach if and only if they obey the rules.** -/
theorem Definitions.breaches_eq_nil_iff {d : Definitions} {sorted : List CategoryDefinition}
    (perm : sorted.Perm d.categories) : d.breaches sorted = [] ↔ d.Lawful := by
  have ids := (perm.map CategoryDefinition.id).nodup_iff
  simp only [breaches, List.append_eq_nil_iff, List.flatMap_eq_nil_iff, List.map_eq_nil_iff,
    Facet.Tree.breachesAll_eq_nil_iff, CategoryDefinition.breaches_eq_nil_iff,
    repeated_eq_nil_iff, ids]
  constructor
  · rintro ⟨⟨subjects, categories⟩, nodup⟩
    exact ⟨subjects, fun c member => (categories c member).2,
      fun c member => (categories c member).1, nodup⟩
  · intro lawful
    exact ⟨⟨lawful.subjects, fun c member => ⟨lawful.names c member, lawful.choices c member⟩⟩,
      lawful.ids⟩

/-! ## Catalogs -/

namespace Catalog

/-- Categories are sorted as their definitions are. -/
theorem map_id_byOrder {definitions : List CategoryDefinition} {categories : List Category}
    (run : definitions.mapM Category.build = .ok categories) :
    (Facet.byOrder Category.order categories).map Category.id =
      (Facet.byOrder CategoryDefinition.order definitions).map CategoryDefinition.id := by
  have rows : categories.map (fun c => (c.order, c.id)) =
      definitions.map fun c => (c.order, c.id) := by
    have built := forall₂_of_mapM_ok run
    clear run
    induction built with
    | nil => rfl
    | cons here _ ih =>
        obtain ⟨-, choices, -, rfl⟩ := Category.build_eq_ok_iff.1 here
        rw [List.map_cons, List.map_cons, ih]
  have sorted := congrArg (fun rows => (Facet.byOrder Prod.fst rows).map Prod.snd) rows
  simp only [Facet.byOrder_map, List.map_map] at sorted
  exact sorted

theorem of?_build {d : Definitions} {sorted : List CategoryDefinition}
    (sorting : Facet.StablySorted CategoryDefinition.order d.categories sorted) :
    BuildError.of? (Catalog.build d) = (d.breaches sorted).head? := by
  obtain rfl := sorting.eq_byOrder
  rw [Definitions.breaches, List.head?_append, List.head?_append, ← Forest.of?_build,
    ← BuildError.of?_mapM Category.of?_build, List.head?_map]
  unfold Catalog.build
  cases Forest.build d.subjects with
  | error breach => rfl
  | ok subjects =>
      cases run : d.categories.mapM Category.build with
      | error breach => rfl
      | ok categories =>
          simp only [bind, Except.bind]
          rw [map_id_byOrder run, firstRepeated?_eq_head? fun _ => Iff.rfl]
          cases repeated [] ((Facet.byOrder CategoryDefinition.order d.categories).map
            CategoryDefinition.id) <;> rfl

theorem exists_build_iff {d : Definitions} :
    (∃ catalog, Catalog.build d = .ok catalog) ↔ d.Lawful := by
  have sorting := Facet.stablySorted_byOrder CategoryDefinition.order d.categories
  rw [← BuildError.of?_eq_none_iff, of?_build sorting, List.head?_eq_none_iff,
    Definitions.breaches_eq_nil_iff sorting.perm]

/-- **Building accepts the lawful definitions**, and of all others it reports the first breach. -/
theorem build_reports_first_breach (d : Definitions) :
    ((∃ catalog, Catalog.build d = .ok catalog) ↔ d.Lawful) ∧
      (∃! sorted, Facet.StablySorted CategoryDefinition.order d.categories sorted) ∧
      ∀ sorted, Facet.StablySorted CategoryDefinition.order d.categories sorted →
        ∀ breach, Catalog.build d = .error breach ↔ (d.breaches sorted).head? = some breach := by
  refine ⟨exists_build_iff, ?_, fun sorted sorting breach => ?_⟩
  · exact ⟨_, Facet.stablySorted_byOrder _ _, fun _ sorting => sorting.eq_byOrder⟩
  · rw [← BuildError.of?_eq_some_iff, of?_build sorting]

namespace Example

/-- A facet breaks all its rules, another one below it two, and two categories have a taken name. -/
def unruly : Definitions where
  subjects :=
    [.node { key := ⟨"onc", none, none, none⟩ }
      [.node { key := ⟨"x", none, none, none⟩, texts := { broad := some [] } }
        [.node { key := ⟨"onc", none, none, none⟩ } []]]]
  categories := [{ id := "page", order := 1 }, { id := "age" }, { id := "page" }]

/-- As they are written `a` comes again before `b`, and as they are sorted it is `b`. -/
def twice : Definitions where
  categories := [{ id := "a", order := 2 }, { id := "b", order := 1 }, { id := "a", order := 2 },
    { id := "b" }]

theorem stablySorted_unruly :
    Facet.StablySorted CategoryDefinition.order unruly.categories
      [{ id := "age" }, { id := "page" }, { id := "page", order := 1 }] := by
  have sorted : Facet.byOrder CategoryDefinition.order unruly.categories =
      [{ id := "age" }, { id := "page" }, { id := "page", order := 1 }] := by cbv
  exact sorted ▸ Facet.stablySorted_byOrder _ _

theorem stablySorted_twice :
    Facet.StablySorted CategoryDefinition.order twice.categories
      [{ id := "b" }, { id := "b", order := 1 }, { id := "a", order := 2 },
        { id := "a", order := 2 }] := by
  have sorted : Facet.byOrder CategoryDefinition.order twice.categories =
      [{ id := "b" }, { id := "b", order := 1 }, { id := "a", order := 2 },
        { id := "a", order := 2 }] := by cbv
  exact sorted ▸ Facet.stablySorted_byOrder _ _

end Example

theorem build_reports_first_breach_of_sorted :
    Example.unruly.breaches [{ id := "age" }, { id := "page" }, { id := "page", order := 1 }] =
        [.misplacedFacet ⟨"x", none, none, none⟩ ⟨"onc", none, none, none⟩,
          .emptySearchTexts ⟨"x", none, none, none⟩ .broad,
          .misplacedFacet ⟨"onc", none, none, none⟩ ⟨"x", none, none, none⟩,
          .duplicateFacet ⟨"onc", none, none, none⟩, .reservedCategory "page",
          .reservedCategory "page", .duplicateCategory "page"] ∧
      Catalog.build Example.unruly =
        .error (.misplacedFacet ⟨"x", none, none, none⟩ ⟨"onc", none, none, none⟩) ∧
      Catalog.build Example.twice = .error (.duplicateCategory "b") := by
  obtain ⟨-, -, first⟩ := build_reports_first_breach Example.unruly
  obtain ⟨-, -, repeats⟩ := build_reports_first_breach Example.twice
  exact ⟨by cbv, (first _ Example.stablySorted_unruly _).2 (by cbv),
    (repeats _ Example.stablySorted_twice _).2 (by cbv)⟩

end Catalog

end FacetedSearch
