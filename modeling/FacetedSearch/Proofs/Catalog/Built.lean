/-
# FacetedSearch.Proofs.Catalog.Built -- what a catalog that was built can be relied on for

No category of a built catalog has an empty id or the name of another link parameter
(`id_of_build`), so a link parameter is never both: a parameter of settings or subjects finds no
category (`category?_setting`, `category?_subject`).
-/
import FacetedSearch.Catalog.Build
import FacetedSearch.Link.Format
import FacetedSearch.Proofs.Catalog.Sorting
import Mathlib.Data.List.Forall2

namespace FacetedSearch

set_option autoImplicit false

/-- A run over a list without errors has one result for each member, in order. -/
theorem forall₂_of_mapM_ok {α β ε : Type} {f : α → Except ε β} {xs : List α} {ys : List β}
    (run : xs.mapM f = .ok ys) : List.Forall₂ (fun x y => f x = .ok y) xs ys := by
  induction xs generalizing ys with
  | nil =>
      obtain rfl : [] = ys := by simpa [pure, Except.pure] using run
      exact .nil
  | cons x xs ih =>
      rw [List.mapM_cons] at run
      cases first : f x with
      | error e => simp [first, bind, Except.bind] at run
      | ok y =>
          cases others : xs.mapM f with
          | error e => simp [first, others, bind, Except.bind] at run
          | ok rest =>
              obtain rfl : y :: rest = ys := by
                simpa [first, others, bind, Except.bind, pure, Except.pure] using run
              exact .cons first (ih others)

/-- Every result of a run without errors is the result of a member. -/
theorem mem_of_mapM_ok {α β ε : Type} {f : α → Except ε β} {xs : List α} {ys : List β}
    (run : xs.mapM f = .ok ys) : ∀ y ∈ ys, ∃ x ∈ xs, f x = .ok y := by
  have results := forall₂_of_mapM_ok run
  clear run
  induction results with
  | nil => simp
  | @cons x y xs ys here _ ih =>
      intro z member
      rcases List.mem_cons.1 member with rfl | member
      · exact ⟨x, List.mem_cons_self, here⟩
      · obtain ⟨x', hx', result⟩ := ih z member
        exact ⟨x', List.mem_cons_of_mem _ hx', result⟩

/-- What it takes to build a category. -/
theorem Category.build_eq_ok_iff {d : CategoryDefinition} {category : Category} :
    Category.build d = .ok category ↔
      (d.id ≠ "" ∧ d.id ∉ reservedNames) ∧
        ∃ choices, Forest.build d.choices = .ok choices ∧
          category = ⟨d.id, d.labels, d.order, choices⟩ := by
  unfold Category.build
  split
  · rename_i refused
    exact ⟨nofun, fun ⟨allowed, _⟩ => absurd refused (not_or.2 allowed)⟩
  · rename_i allowed
    rw [not_or] at allowed
    cases Forest.build d.choices <;> simp [Except.map, allowed, eq_comm]

theorem Category.id_of_build {d : CategoryDefinition} {category : Category}
    (built : Category.build d = .ok category) :
    category.id ≠ "" ∧ category.id ∉ reservedNames := by
  obtain ⟨allowed, choices, -, rfl⟩ := Category.build_eq_ok_iff.1 built
  exact allowed

namespace Catalog

variable {d : Definitions} {catalog : Catalog}

/-- What it takes to build a catalog. -/
theorem build_eq_ok_iff :
    Catalog.build d = .ok catalog ↔
      ∃ subjects categories, Forest.build d.subjects = .ok subjects ∧
        d.categories.mapM Category.build = .ok categories ∧
          firstRepeated? [] ((Facet.byOrder Category.order categories).map Category.id) = none ∧
            catalog = ⟨subjects, Facet.byOrder Category.order categories⟩ := by
  unfold Catalog.build
  cases Forest.build d.subjects with
  | error breach => simp [bind, Except.bind]
  | ok subjects =>
      cases d.categories.mapM Category.build with
      | error breach => simp [bind, Except.bind]
      | ok categories =>
          simp only [bind, Except.bind]
          split
          · rename_i id repeated
            simp [repeated]
          · rename_i apart
            simp [apart, eq_comm]

theorem mem_categories_of_build (built : Catalog.build d = .ok catalog) :
    ∀ category ∈ catalog.categories, ∃ c ∈ d.categories, Category.build c = .ok category := by
  obtain ⟨subjects, categories, -, run, -, rfl⟩ := build_eq_ok_iff.1 built
  intro category member
  exact mem_of_mapM_ok run category ((Facet.byOrder_perm _ _).mem_iff.1 member)

/-- **No category has an empty id or the name of another link parameter.** -/
theorem id_of_build (built : Catalog.build d = .ok catalog) :
    ∀ category ∈ catalog.categories, category.id ≠ "" ∧ category.id ∉ reservedNames := by
  intro category member
  obtain ⟨c, -, hc⟩ := mem_categories_of_build built category member
  exact Category.id_of_build hc

theorem category?_of_mem_reservedNames (built : Catalog.build d = .ok catalog) {name : String}
    (reserved : name ∈ reservedNames) : catalog.category? name = none := by
  rw [category?, Keyed.lookup_eq_none_iff]
  intro member
  obtain ⟨category, hcategory, rfl⟩ := List.mem_map.1 member
  exact (id_of_build built category hcategory).2 reserved

theorem category?_setting (built : Catalog.build d = .ok catalog) (setting : Link.Setting) :
    catalog.category? setting.name = none := by
  apply category?_of_mem_reservedNames built
  cases setting <;> decide

theorem category?_subject (built : Catalog.build d = .ok catalog) :
    catalog.category? "subject" = none :=
  category?_of_mem_reservedNames built (by decide)

theorem id_of_category? {name : String} {category : Category}
    (found : catalog.category? name = some category) : category.id = name :=
  (Keyed.mem_of_lookup found).2

end Catalog

/-! ## A small catalog -/

namespace Catalog.Example

/-- A subject below a group that is no facet itself. -/
def subject : Facet where
  key := ⟨"onc", some 1, none, none⟩
  texts := { normal := some ["a[ti] OR b[ti]", "c[ti]"], broad := some ["d[ti]"] }

/-- A choice of the category `type`. -/
def choice : Facet where
  key := ⟨"rev", none, none, none⟩
  texts := { normal := some ["review[pt]"] }

def definitions : Definitions where
  subjects := [.node subject []]
  categories := [{ id := "type", choices := [.node choice []] }]

def catalog : Catalog where
  subjects := { roots := [.node subject []], index := [subject] }
  categories := [⟨"type", {}, 0, { roots := [.node choice []], index := [choice] }⟩]

theorem build_definitions : Catalog.build definitions = .ok catalog := by with_unfolding_all rfl

end Catalog.Example

end FacetedSearch
