/-
# FacetedSearch.Proofs.Link.Changes -- the changes that make up a selection

A link changes an empty selection parameter by parameter.  `Selection.changes` lists changes in the
order of a written link: groups, categories, settings.  Made one after another they give the
selection again (`foldl_changes`), if it has no group and no category without entries; the page and
the anchor are the ones of the start.
-/
import FacetedSearch.Link.Read
import FacetedSearch.Proofs.Selection.Throughout

namespace FacetedSearch

set_option autoImplicit false

open Link (Change)

namespace Link

/-! ## Changes of one kind -/

theorem foldl_addGroup {groups : List (List Entry)} (populated : ∀ group ∈ groups, group ≠ [])
    (s : Selection) :
    (groups.map Change.addGroup).foldl Change.apply s = { s with groups := s.groups ++ groups } := by
  induction groups generalizing s with
  | nil => simp
  | cons group rest ih =>
      have hgroup : group.isEmpty = false := by simpa using populated group List.mem_cons_self
      rw [List.map_cons, List.foldl_cons, ih fun g hg => populated g (List.mem_cons_of_mem _ hg)]
      simp [Change.apply, hgroup]

/-- Categories that are new, and distinct, are added behind the others. -/
theorem foldl_addFilters {rows : List (String × List Entry)}
    (populated : ∀ row ∈ rows, row.2 ≠ []) {s : Selection}
    (nodup : (s.filters.rows.map Prod.fst ++ rows.map Prod.fst).Nodup) :
    ∃ filters : Filters, filters.rows = s.filters.rows ++ rows ∧
      (rows.map fun row => Change.addFilters row.1 row.2).foldl Change.apply s =
        { s with filters } := by
  induction rows generalizing s with
  | nil => exact ⟨s.filters, by simp, rfl⟩
  | cons row rest ih =>
      have hrow : row.2.isEmpty = false := by simpa using populated row List.mem_cons_self
      have new : row.1 ∉ s.filters.rows.map Prod.fst := by
        intro hmem
        rw [List.map_cons, List.nodup_append] at nodup
        exact nodup.2.2 row.1 hmem row.1 List.mem_cons_self rfl
      have hextend : (s.filters.extend row.1 row.2).rows = s.filters.rows ++ [row] :=
        Filters.extendRows_of_notMem new row.2
      obtain ⟨filters, hrows, hfold⟩ := ih
        (s := { s with filters := s.filters.extend row.1 row.2 })
        (fun r hr => populated r (List.mem_cons_of_mem _ hr))
        (by simpa [hextend] using nodup)
      refine ⟨filters, by simpa [hextend] using hrows, ?_⟩
      rw [List.map_cons, List.foldl_cons]
      simpa [Change.apply, hrow] using hfold

end Link

/-! ## All changes -/

namespace Selection

/-- The value that a selection gives to a setting, as a change. -/
def settingChange (s : Selection) : Link.Setting → Change
  | .advanced => .setAdvanced s.advanced
  | .sort => .setSort s.sort
  | .collapsed => .setCollapsed s.collapsed
  | .pageSize => .setPageSize s.pageSize
  | .pmids => .setPmids s.pmids

/-- The changes that make up a selection, in the order of its link. -/
def changes (s : Selection) : List Change :=
  s.groups.map Change.addGroup ++ (s.filters.rows.map fun row => Change.addFilters row.1 row.2) ++
    (Coded.all : List Link.Setting).map s.settingChange

/-- **The changes that make up a selection give it again**, but for the page and the anchor. -/
theorem foldl_changes {s : Selection} (groups : ∀ group ∈ s.groups, group ≠ [])
    (filters : ∀ row ∈ s.filters.rows, row.2 ≠ []) (pageSize : Nat) (anchor : Option String) :
    s.changes.foldl Change.apply { pageSize, anchor } = { s with page := 1, anchor } := by
  obtain ⟨rows, hrows, hfold⟩ := Link.foldl_addFilters filters
    (s := ({ groups := s.groups, pageSize, anchor } : Selection)) (by simpa using s.filters.nodup)
  obtain rfl : rows = s.filters := Filters.ext (by simpa using hrows)
  have hgroups := Link.foldl_addGroup groups ({ pageSize, anchor } : Selection)
  simp only [List.nil_append] at hgroups
  rw [changes, List.foldl_append, List.foldl_append, hgroups, hfold]
  rfl

end Selection

end FacetedSearch
